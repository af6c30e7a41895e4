/-!
# Names of characters from U+1000 to U+1FFF

The names in the order of code points, as strings of names that follow one another from a code point on.
The small letters before a name say how many characters it has in common with the name before it, which
are left out.
-/

namespace HtGate.Text.CharacterName

/-- The names from U+1000 to U+1FFF. -/
def from1000 : List (Nat × String) :=
  [(0x1000, "aMYANMAR LETTER KAqHApGAqHApNGApCAqHApJAqHApNYAqNYApTTArHApDDArHApNNApTAqHApDAqHApNA"),
   (0x1015, "pPAqHApBAqHApMApYApRApLApWApSApHApLLApApSHAN ApIqIpUqUpEpMON EpOpAU"),
   (0x102B, "iVOWEL SIGN TALL AAtAAtIuItUuUtEtAItMON IIxOtE ABOVEiSIGN ANUSVARAnDOT BELOWnVISARGA"),
   (0x1039, "pRAMAnASATiCONSONANT SIGN MEDIAL YAzfRAzfWAzfHAiLETTER GREAT SAiDIGIT ZEROoONEoTWO"),
   (0x1043, "pHREEoFOURpIVEoSIXpEVENoEIGHToNINEiSIGN LITTLE SECTIONnSECTIONjYMBOL LOCATIVE"),
   (0x104D, "pCOMPLETEDpAFOREMENTIONEDpGENITIVEiLETTER SHAqSApVOCALIC RyRxLyL"),
   (0x1056, "iVOWEL SIGN VOCALIC RzdRzcLzdLiLETTER MON NGAtJHAtBBAvEiCONSONANT SIGN MON MEDIAL NA"),
   (0x105F, "zjMAzjLAiLETTER SGAW KAREN SHAiVOWEL SIGN SGAW KAREN EUiTONE MARK SGAW KAREN HATHI"),
   (0x1064, "zeKE PHOiLETTER WESTERN PWO KAREN THAziPWAiVOWEL SIGN WESTERN PWO KAREN EUzmUE"),
   (0x1069, "iSIGN WESTERN PWO KAREN TONE-1zl2zl3zl4zl5iLETTER EASTERN PWO KAREN NNAziYWAziGHWA"),
   (0x1071, "iVOWEL SIGN GEBA KAREN ItKAYAH OEzUzEEiLETTER SHAN KAvHAuGAuCAuZAuNYAuDAuNAuPHAuFA"),
   (0x107F, "uBAuTHAuHAiCONSONANT SIGN SHAN MEDIAL WAiVOWEL SIGN SHAN AAyEz ABOVEyFINAL Y"),
   (0x1087, "iSIGN SHAN TONE-2x3x5x6sCOUNCIL TONE-2zg3zbEMPHATIC TONEiLETTER RUMAI PALAUNG FA"),
   (0x108F, "iSIGN RUMAI PALAUNG TONE-5jHAN DIGIT ZEROtONEtTWOuHREEtFOURuIVEtSIXuEVENtEIGHTtNINE"),
   (0x109A, "jIGN KHAMTI TONE-1z3iVOWEL SIGN AITON AzbIiSYMBOL SHAN ONEuEXCLAMATION"),
   (0x10A0, "aGEORGIAN CAPITAL LETTER ANyBANyGANyDONyENyVINyZENyTANyINyKANyLASyMANyNARyONyPAR"),
   (0x10AF, "yZHARyRAEySANyTARyUNyPHARyKHARyGHANyQARySHINyCHINzANyJILyCILzHARyXANyJHANyHAEzEzIE"),
   (0x10C3, "yWEyHARzOE"),
   (0x10C7, "yYN"),
   (0x10CD, "yAEN"),
   (0x10D0, "jLETTER ANqBANqGANqDONqENqVINqZENqTANqINqKANqLASqMANqNARqONqPARqZHARqRAEqSANqTARqUN"),
   (0x10E4, "qPHARqKHARqGHANqQARqSHINqCHINrANqJILqCILrHARqXANqJHANqHAErErIEqWEqHARrOEqFIqYNqELIFI"),
   (0x10F9, "qTURNED GANqAINjPARAGRAPH SEPARATORaMODIFIER LETTER GEORGIAN NARaGEORGIAN LETTER AEN"),
   (0x10FE, "qHARD SIGNqLABIAL SIGNaHANGUL CHOSEONG KIYEOKqSSANGKIYEOKqNIEUNqTIKEUTqSSANGTIKEUT"),
   (0x1105, "qRIEULqMIEUMqPIEUPqSSANGPIEUPrIOSrSANGSIOSqIEUNGqCIEUCqSSANGCIEUCqCHIEUCHqKHIEUKH"),
   (0x1110, "qTHIEUTHqPHIEUPHqHIEUHqNIEUN-KIYEOKqSSANGNIEUNqNIEUN-TIKEUTwPIEUPqTIKEUT-KIYEOK"),
   (0x1118, "qRIEUL-NIEUNqSSANGRIEULqRIEUL-HIEUHqKAPYEOUNRIEULqMIEUM-PIEUPqKAPYEOUNMIEUM"),
   (0x111E, "qPIEUP-KIYEOKwNIEUNwTIKEUTwSIOSzb-KIYEOKzcTIKEUTzcPIEUPxSANGSIOSxIOS-CIEUCwCIEUC"),
   (0x1128, "xHIEUCHwTHIEUTHwPHIEUPHqKAPYEOUNPIEUPySSANGPIEUPqSIOS-KIYEOKvNIEUNvTIKEUTvRIEUL"),
   (0x1131, "vMIEUMvPIEUPzb-KIYEOKvSSANGSIOSvIEUNGvCIEUCwHIEUCHvKHIEUKHvTHIEUTHvPHIEUPHvHIEUH"),
   (0x113C, "qCHITUEUMSIOSzSANGSIOSrEONGCHIEUMSIOSzdSANGSIOSqPANSIOSqIEUNG-KIYEOKwTIKEUTwMIEUM"),
   (0x1144, "wPIEUPwSIOSwPANSIOSqSSANGIEUNGqIEUNG-CIEUCxHIEUCHwTHIEUTHwPHIEUPHqYESIEUNG"),
   (0x114D, "qCIEUC-IEUNGrHITUEUMCIEUCySSANGCIEUCrEONGCHIEUMCIEUCzcSSANGCIEUCrHIEUCH-KHIEUKH"),
   (0x1153, "yHIEUHtTUEUMCHIEUCHrEONGCHIEUMCHIEUCHqPHIEUPH-PIEUPqKAPYEOUNPHIEUPHqSSANGHIEUH"),
   (0x1159, "qYEORINHIEUHqKIYEOK-TIKEUTqNIEUN-SIOSwCIEUCwHIEUHqTIKEUT-RIEULqFILLER"),
   (0x1160, "hJUNGSEONG FILLERrAsErYAtErEOrErYEOsErOrWAtErOErYOrUrWEOsEsIrYUrEUrYIrIrA-OtUrYA-O"),
   (0x1179, "uYOrEO-OuUuEUrYEO-OvUrO-EOtEtYEtOtUrYO-YAwEvEOuOuIrU-AuEtEO-EUtYEtUrYU-AuEOuEuYEOvE"),
   (0x1193, "uUuIrEU-UuEUrYI-UrI-AtYAtOtUtEUtARAEArARAEAw-EOxUxIrSSANGARAEArA-EUrYA-UsEO-YArO-YA"),
   (0x11A7, "vEiONGSEONG KIYEOKrSSANGKIYEOKrKIYEOK-SIOSrNIEUNw-CIEUCxHIEUHrTIKEUTrRIEULw-KIYEOK"),
   (0x11B1, "xMIEUMxPIEUPxSIOSxTHIEUTHxPHIEUPHxHIEUHrMIEUMrPIEUPw-SIOSrSIOSsSANGSIOSrIEUNGrCIEUC"),
   (0x11BE, "sHIEUCHrKHIEUKHrTHIEUTHrPHIEUPHrHIEUHrKIYEOK-RIEULySIOS-KIYEOKrNIEUN-KIYEOKxTIKEUT"),
   (0x11C7, "xSIOSxPANSIOSxTHIEUTHrTIKEUT-KIYEOKyRIEULrRIEUL-KIYEOK-SIOSxNIEUNxTIKEUTze-HIEUH"),
   (0x11D0, "rSSANGRIEULrRIEUL-MIEUM-KIYEOKzeSIOSxPIEUP-SIOSzeHIEUHxKAPYEOUNPIEUPxSSANGSIOS"),
   (0x11D7, "xPANSIOSxKHIEUKHxYEORINHIEUHrMIEUM-KIYEOKxRIEULxPIEUPxSIOSySANGSIOSxPANSIOSxCHIEUCH"),
   (0x11E1, "xHIEUHrKAPYEOUNMIEUMrPIEUP-RIEULxPHIEUPHxHIEUHrKAPYEOUNPIEUPrSIOS-KIYEOKwTIKEUT"),
   (0x11E9, "wRIEULwPIEUPrPANSIOSrIEUNG-KIYEOKxSSANGKIYEOKrSSANGIEUNGrIEUNG-KHIEUKHrYESIEUNG"),
   (0x11F1, "z-SIOSzbPANSIOSrPHIEUPH-PIEUPrKAPYEOUNPHIEUPHrHIEUH-NIEUNxRIEULxMIEUMxPIEUP"),
   (0x11F9, "rYEORINHIEUHrKIYEOK-NIEUNyPIEUPyCHIEUCHyKHIEUKHyHIEUHrSSANGNIEUN"),
   (0x1200, "aETHIOPIC SYLLABLE HAtUtItAAtEEtEtOuAsLAtUtItAAtEEtEtOtWAsHHAuUuIuAAuEEuEuOuWAsMAtU"),
   (0x121A, "tItAAtEEtEtOtWAsSZAuUuIuAAuEEuEuOuWAsRAtUtItAAtEEtEtOtWAsSAtUtItAAtEEtEtOtWAtHAuUuI"),
   (0x123B, "uAAuEEuEuOuWAsQAtUtItAAtEEtEtOuAtWA"),
   (0x124A, "uIuAAuEEuE"),
   (0x1250, "tHAuUuIuAAuEEuEuO"),
   (0x1258, "uWA"),
   (0x125A, "vIvAAvEEvE"),
   (0x1260, "sBAtUtItAAtEEtEtOtWAsVAtUtItAAtEEtEtOtWAsTAtUtItAAtEEtEtOtWAsCAtUtItAAtEEtEtOtWAsXA"),
   (0x1281, "tUtItAAtEEtEtOuAtWA"),
   (0x128A, "uIuAAuEEuE"),
   (0x1290, "sNAtUtItAAtEEtEtOtWAtYAuUuIuAAuEEuEuOuWAsGLOTTAL AzbUzbIzbAAzbEEzbEzbOzbWAsKAtUtItAA"),
   (0x12AC, "tEEtEtOuAtWA"),
   (0x12B2, "uIuAAuEEuE"),
   (0x12B8, "tXAuUuIuAAuEEuEuO"),
   (0x12C0, "uWA"),
   (0x12C2, "vIvAAvEEvE"),
   (0x12C8, "sWAtUtItAAtEEtEtOuAsPHARYNGEAL AzeUzeIzeAAzeEEzeEzeO"),
   (0x12D8, "sZAtUtItAAtEEtEtOtWAtHAuUuIuAAuEEuEuOuWAsYAtUtItAAtEEtEtOuAsDAtUtItAAtEEtEtOtWAtDAuU"),
   (0x12FA, "uIuAAuEEuEuOuWAsJAtUtItAAtEEtEtOtWAsGAtUtItAAtEEtEtOuAtWA"),
   (0x1312, "uIuAAuEEuE"),
   (0x1318, "tGAuUuIuAAuEEuEuOuWAAsTHAuUuIuAAuEEuEuOuWAsCHAuUuIuAAuEEuEuOuWAsPHAuUuIuAAuEEuEuOuWA"),
   (0x1338, "sTSAuUuIuAAuEEuEuOuWAtZAuUuIuAAuEEuEuOvAsFAtUtItAAtEEtEtOtWAsPAtUtItAAtEEtEtOtWAsRYA"),
   (0x1359, "sMYAsFYA"),
   (0x135D, "jCOMBINING GEMINATION AND VOWEL LENGTH MARKtVOWEL LENGTH MARKtGEMINATION MARK"),
   (0x1360, "jSECTION MARKjWORDSPACEjFULL STOPjCOMMAjSEMICOLONjCOLONjPREFACE COLONjQUESTION MARK"),
   (0x1368, "jPARAGRAPH SEPARATORjDIGIT ONEpTWOqHREEpFOURqIVEpSIXqEVENpEIGHTpNINEjNUMBER TEN"),
   (0x1373, "rWENTYrHIRTYqFORTYrIFTYqSIXTYrEVENTYqEIGHTYqNINETYqHUNDREDqTEN THOUSAND"),
   (0x1380, "jSYLLABLE SEBATBEIT MWAsMWIuEEuEsSEBATBEIT BWAsBWIuEEuEsSEBATBEIT FWAsFWIuEEuE"),
   (0x138C, "sSEBATBEIT PWAsPWIuEEuEjTONAL MARK YIZETuDERETuRIKRIKuSHORT RIKRIKuDIFATuKENAT"),
   (0x1396, "uCHIRETuHIDETuDERET-HIDETuKURT"),
   (0x13A0, "aCHEROKEE LETTER AqEqIqOqUqVqGAqKAqGErIrOrUrVqHArErIrOrUrVqLArErIrOrUrVqMArErIrOrU"),
   (0x13BE, "qNAqHNAqNAHrErIrOrUrVqQUAsEsIsOsUsVqSAqSrErIrOrUrVqDAqTAqDEqTEqDIqTIqDOrUrVrLAqTLAsE"),
   (0x13DF, "sIsOsUsVrSAsEsIsOsUsVqWArErIrOrUrVqYArErIrOrUrVqMV"),
   (0x13F8, "jSMALL LETTER YExIxOxUxVwMV"),
   (0x1400, "bANADIAN SYLLABICS HYPHENtEtAAItIuItOuOtY-CREE OOtCARRIER EEzcItAuAtWEvST-CREE WEuI"),
   (0x140F, "uEST-CREE WIuIIuEST-CREE WIIuOuEST-CREE WOuOOuEST-CREE WOOtNASKAPI WOOtWA"),
   (0x1418, "uEST-CREE WAuAAuEST-CREE WAAtNASKAPI WAAtAItY-CREE WtGLOTTAL STOPtFINAL ACUTEzGRAVE"),
   (0x1421, "zBOTTOM HALF RINGzTOP HALF RINGzRIGHT HALF RINGzcNGzDOUBLE ACUTE"),
   (0x1426, "zhSHORT VERTICAL STROKESzMIDDLE DOTzSHORT HORIZONTAL STROKEzPLUSzDOWN TACKtENtINtON"),
   (0x142E, "tANtPEuAAIuIvIuOvOtY-CREE POOtCARRIER HEEzdItPAvAuWEtWEST-CREE PWEtPWItWEST-CREE PWI"),
   (0x143E, "tPWIItWEST-CREE PWIItPWOtWEST-CREE PWOtPWOOtWEST-CREE PWOOtPWAtWEST-CREE PWAtPWAA"),
   (0x1447, "tWEST-CREE PWAAtY-CREE PWAAtPtWEST-CREE PtCARRIER HtTEuAAIuIvIuOvOtY-CREE TOO"),
   (0x1453, "tCARRIER DEEzdItTAvAuWEtWEST-CREE TWEtTWItWEST-CREE TWItTWIItWEST-CREE TWIItTWO"),
   (0x145E, "tWEST-CREE TWOtTWOOtWEST-CREE TWOOtTWAtWEST-CREE TWAtTWAAtWEST-CREE TWAA"),
   (0x1465, "tNASKAPI TWAAtTuTEvIvOvAtKEuAAIuIvIuOvOtY-CREE KOOtKAvAuWEtWEST-CREE KWEtKWI"),
   (0x1477, "tWEST-CREE KWItKWIItWEST-CREE KWIItKWOtWEST-CREE KWOtKWOOtWEST-CREE KWOOtKWA"),
   (0x147F, "tWEST-CREE KWAtKWAAtWEST-CREE KWAAtNASKAPI KWAAtKuWtSOUTH-SLAVEY KEHziIHziOHziAHtCE"),
   (0x148A, "uAAIuIvIuOvOtY-CREE COOtCAvAuWEtWEST-CREE CWEtCWItWEST-CREE CWItCWIItWEST-CREE CWII"),
   (0x1498, "tCWOtWEST-CREE CWOtCWOOtWEST-CREE CWOOtCWAtWEST-CREE CWAtCWAAtWEST-CREE CWAA"),
   (0x14A0, "tNASKAPI CWAAtCtSAYISI THtMEuAAIuIvIuOvOtY-CREE MOOtMAvAuWEtWEST-CREE MWEtMWI"),
   (0x14AF, "tWEST-CREE MWItMWIItWEST-CREE MWIItMWOtWEST-CREE MWOtMWOOtWEST-CREE MWOOtMWA"),
   (0x14B7, "tWEST-CREE MWAtMWAAtWEST-CREE MWAAtNASKAPI MWAAtMtWEST-CREE MtMHtATHAPASCAN M"),
   (0x14BF, "tSAYISI MtNEuAAIuIvIuOvOtY-CREE NOOtNAvAuWEtWEST-CREE NWEtNWAtWEST-CREE NWAtNWAA"),
   (0x14CE, "tWEST-CREE NWAAtNASKAPI NWAAtNtCARRIER NGtNHtLEuAAIuIvIuOvOtY-CREE LOOtLAvAuWE"),
   (0x14DD, "tWEST-CREE LWEtLWItWEST-CREE LWItLWIItWEST-CREE LWIItLWOtWEST-CREE LWOtLWOO"),
   (0x14E5, "tWEST-CREE LWOOtLWAtWEST-CREE LWAtLWAAtWEST-CREE LWAAtLtWEST-CREE LtMEDIAL LtSEuAAI"),
   (0x14EF, "uIvIuOvOtY-CREE SOOtSAvAuWEtWEST-CREE SWEtSWItWEST-CREE SWItSWIItWEST-CREE SWIItSWO"),
   (0x14FD, "tWEST-CREE SWOtSWOOtWEST-CREE SWOOtSWAtWEST-CREE SWAtSWAAtWEST-CREE SWAA"),
   (0x1504, "tNASKAPI SWAAtStATHAPASCAN StSWtBLACKFOOT StMOOSE-CREE SKtNASKAPI SKWzd-WzdPWAzdTWA"),
   (0x150E, "zdKWAzdCWAtSHEvIwIvOwOvAwAvWEtWEST-CREE SHWEtSHWItWEST-CREE SHWItSHWII"),
   (0x151C, "tWEST-CREE SHWIItSHWOtWEST-CREE SHWOtSHWOOtWEST-CREE SHWOOtSHWAtWEST-CREE SHWAtSHWAA"),
   (0x1524, "tWEST-CREE SHWAAtSHtYEuAAIuIvIuOvOu-CREE YOOuAvAuWEtWEST-CREE YWEtYWItWEST-CREE YWI"),
   (0x1533, "tYWIItWEST-CREE YWIItYWOtWEST-CREE YWOtYWOOtWEST-CREE YWOOtYWAtWEST-CREE YWAtYWAA"),
   (0x153C, "tWEST-CREE YWAAtNASKAPI YWAAtYtBIBLE-CREE YtWEST-CREE YtSAYISI YItREu-CREE RE"),
   (0x1544, "tWEST-CREE LEtRAAIuIvIuOvOtWEST-CREE LOtRAvAtWEST-CREE LAtRWAAtWEST-CREE RWAAtR"),
   (0x1551, "tWEST-CREE RtMEDIAL RtFEuAAIuIvIuOvOuAvAuWAAtWEST-CREE FWAAtFtTHEtN-CREE THEtTHI"),
   (0x1561, "tN-CREE THItTHIItN-CREE THIItTHOwOvAwAvWAAtWEST-CREE THWAAtTHuTHEwIwOwAvHuYEvIvOvA"),
   (0x1574, "tNUNAVIK HEzdIzeIzdOzeOzdAzeAzcHyUT HtHKtQAAIuIvIuOvOuAvAtQtTLHEwIwOwAtWEST-CREE RE"),
   (0x158B, "zfIzfOzfAtNGAAIvIwIvOwOvAwAuGuNGtSAYISI SHEzdIzdOzdAtWOODS-CREE THEzhIzhOzhAzgHtLHI"),
   (0x15A1, "wIvOwOvAwAuHtTH-CREE THEzeIzfIzeOzfOzeAzfAzdHtAIVILIK BtBLACKFOOT EzeIzeOzeAzeWEzfI"),
   (0x15B6, "zfOzfAzeNEzfIzfOzfAzeKEzfIzfOzfAtSAYISI HEzcIzcOzcAtCARRIER GHUzeOzeEzfEzeIzeAzcRU"),
   (0x15CB, "zdOzdEzeEzdIzdAzcWUzdOzdEzeEzdIzdAzcHWUzeOzeEzfEzeIzeAzcTHUzeOzeEzfEzeIzeAzdTUzeOzeE"),
   (0x15E5, "zfEzeIzeAzcPUzdOzdEzeEzdIzdAzcPzcGUzdOzdEzeEzdIzdAzcKHUzeOzeEzfEzeIzeAzdKUzeOzeEzfE"),
   (0x15FF, "zeIzeAzdKzcNUzdOzdEzeEzdIzdAzcMUzdOzdEzeEzdIzdAzcYUzdOzdEzeEzdIzdAzcJUtSAYISI JU"),
   (0x1616, "tCARRIER JOzdEzeEzdItSAYISI JItCARRIER JAzdJUzeOzeEzfEzeIzeAzcLUzdOzdEzeEzdIzdAzcDLU"),
   (0x1629, "zeOzeEzfEzeIzeAzcLHUzeOzeEzfEzeIzeAzcTLHUzfOzfEzgEzfIzfAzeUzeOzeEzfEzeIzeAzcZUzdOzdE"),
   (0x1643, "zeEzdIzdAzcZzcINITIAL ZzcDZUzeOzeEzfEzeIzeAzcSUzdOzdEzeEzdIzdAzdHUzeOzeEzfEzeIzeAzdH"),
   (0x165B, "zcTSUzeOzeEzfEzeIzeAzcCHUzeOzeEzfEzeIzeAzcTTSUzfOzfEzgEzfIzfAuHI SIGNtFULL STOPtQAI"),
   (0x1670, "tNGAIuNGIxIwOxOwAxAtWOODS-CREE THWEEziIzjIziOzjOziAzjAzfFINAL THtBLACKFOOT W"),
   (0x1680, "aOGHAM SPACE MARKgLETTER BEITHnLUISnFEARNnSAILnNIONnUATHnDAIRnTINNEnCOLLoEIRTnMUIN"),
   (0x168C, "nGORTnNGEADALnSTRAIFnRUISnAILMnONNnURnEADHADHnIODHADHnEABHADHnORnUILLEANNnIFIN"),
   (0x1699, "nEAMHANCHOLLnPEITHgFEATHER MARKgREVERSED FEATHER MARK"),
   (0x16A0, "aRUNIC LETTER FEHU FEOH FE FnVnURUZ UR UnYRnYnWnTHURISAZ THURS THORNnETHnANSUZ A"),
   (0x16A9, "nOS OnAC AoESCnLONG-BRANCH-OSS OnSHORT-TWIG-OSS OnOoEoNnRAIDO RAD REID RnKAUNAnCEN"),
   (0x16B4, "nKAUN KnGnENGnGEBO GYFU GoARnWUNJO WYNN WnHAGLAZ HpEGL HnLONG-BRANCH-HAGALL H"),
   (0x16BD, "nSHORT-TWIG-HAGALL HnNAUDIZ NYD NAUD NnSHORT-TWIG-NAUD NnDOTTED-NnISAZ IS ISS InE"),
   (0x16C3, "nJERAN JnGERnLONG-BRANCH-AR AEnSHORT-TWIG-AR AnIWAZ EOHnPERTHO PEORTH PnALGIZ EOLHX"),
   (0x16CA, "nSOWILO SoIGEL LONG-BRANCH-SOL SoHORT-TWIG-SOL SnCnZnTIWAZ TIR TYR T"),
   (0x16D0, "nSHORT-TWIG-TYR TnDnBERKANAN BEORC BJARKAN BnSHORT-TWIG-BJARKAN BnDOTTED-PnOPEN-P"),
   (0x16D6, "nEHWAZ EH EnMANNAZ MAN MnLONG-BRANCH-MADR MnSHORT-TWIG-MADR MnLAUKAZ LAGU LOGR L"),
   (0x16DB, "nDOTTED-LnINGWAZpGnDAGAZ DAEG DnOTHALAN ETHEL OnEARnIORnCWEORTHoALCoEALCnSTAN"),
   (0x16E6, "nLONG-BRANCH-YRnSHORT-TWIG-YRnICELANDIC-YRnQnXgSINGLE PUNCTUATION"),
   (0x16EC, "gMULTIPLE PUNCTUATIONgCROSS PUNCTUATIONgARLAUG SYMBOLgTVIMADUR SYMBOL"),
   (0x16F0, "gBELGTHOR SYMBOLgLETTER KnSHnOOnFRANKS CASKET OSzcISzcEHzcACzdESC"),
   (0x1700, "aTAGALOG LETTER ApIpUpKApGApNGApTApDApNApPApBApMApYApRApLApWApSApHAiVOWEL SIGN ItU"),
   (0x1714, "iSIGN VIRAMAnPAMUDPOD"),
   (0x171F, "iLETTER ARCHAIC RAaHANUNOO LETTER ApIpUpKApGApNGApTApDApNApPApBApMApYApRApLApWApSA"),
   (0x1731, "pHAiVOWEL SIGN ItUiSIGN PAMUDPODaPHILIPPINE SINGLE PUNCTUATIONlDOUBLE PUNCTUATION"),
   (0x1740, "aBUHID LETTER AnInUnKAnGAnNGAnTAnDAnNAnPAnBAnMAnYAnRAnLAnWAnSAnHAgVOWEL SIGN IrU"),
   (0x1760, "aTAGBANWA LETTER AqIqUqKAqGAqNGAqTAqDAqNAqPAqBAqMAqYA"),
   (0x176E, "qLAqWAqSA"),
   (0x1772, "jVOWEL SIGN IuU"),
   (0x1780, "aKHMER LETTER KAoHAoOoHOnNGOnCAoHAoOoHOnNYOnDAnTTHAnDOnTTHOnNNOnTAoHAoOoHOnNOnBAnPHA"),
   (0x1796, "oOoHOnMOnYOnROnLOnVOnSHAoSOoAnHAnLAnQAgINDEPENDENT VOWEL QAQzbAzIzbIzUzbKzbUzcVyRY"),
   (0x17AC, "zbYyLYzbYyQEzAIzOO TYPE ONEziTWOzAUgVOWEL INHERENT AQwAmSIGN AArIsIrYsYrUsUsArOErYA"),
   (0x17C0, "rIErErAEsIrOOrAUgSIGN NIKAHITlREAHMUKlYUUKALEAPINTUlMUUSIKATOANlTRIISAPlBANTOClROBAT"),
   (0x17CD, "lTOANDAKHIATlKAKABATlAHSDAlSAMYOK SANNYAlVIRIAMlCOENGlBATHAMASATlKHANlBARIYOOSAN"),
   (0x17D6, "lCAMNUC PII KUUHlLEK TOOlBEYYALlPHNAEK MUANlKOOMUUTgCURRENCY SYMBOL RIEL"),
   (0x17DC, "gSIGN AVAKRAHASANYAmTTHACAN"),
   (0x17E0, "gDIGIT ZEROmONEmTWOnHREEmFOURnIVEmSIXnEVENmEIGHTmNINE"),
   (0x17F0, "gSYMBOL LEK ATTAK SONxMUOYxPIIxBEIyUONxPRAMzc-MUOYzdPIIzdBEIzeUON"),
   (0x1800, "aMONGOLIAN BIRGAkELLIPSISkCOMMAkFULL STOPkCOLONkFOUR DOTSkTODO SOFT HYPHEN"),
   (0x1807, "kSIBE SYLLABLE BOUNDARY MARKERkMANCHU COMMArFULL STOPkNIRUGU"),
   (0x180B, "kFREE VARIATION SELECTOR ONEzjTWOzkHREEkVOWEL SEPARATORkFREE VARIATION SELECTOR FOUR"),
   (0x1810, "kDIGIT ZEROqONEqTWOrHREEqFOURrIVEqSIXrEVENqEIGHTqNINE"),
   (0x1820, "kLETTER ArErIrOrUrOErUErEErNArANGrBArPArQArGArMArLArSAsHArTArDArCHArJArYArRArWArFA"),
   (0x183A, "rKAsHArTSArZArHAArZRArLHArZHIrCHIrTODO LONG VOWEL SIGNwEwIwOwUwOEwUEwANGwBAwPAwQAwGA"),
   (0x184F, "wMAwTAwDAwCHAwJAwTSAwYAwWAwKAwGAAwHAAwJIAwNIAwDZArSIBE EwIxYwUEwUwANGwKAwGAwHAwPA"),
   (0x1867, "wSHAwTAwDAwJAwFAwGAAwHAAwTSAwZAwRAAwCHAwZHArMANCHU IyKAyRAyFAyZHArCHA WITH TWO DOTS"),
   (0x1880, "rALI GALI ANUSVARA ONEzbVISARGA ONEzbDAMARUzbUBADAMAzbINVERTED UBADAMAzbBALUDA"),
   (0x1886, "zbTHREE BALUDAzbAzbIzbKAzbNGAzbCAzbTTAzdHAzbDDAzbNNAzbTAzbDAzbPAzcHAzbSSAzbZHAzcA"),
   (0x1897, "zbAHrTODO ALI GALI TAzgZHArMANCHU ALI GALI GHAziNGAziCAziJHAziTTAziDDHAziTAziDHA"),
   (0x18A2, "ziSSAziCYAziZHAzjArALI GALI HALF UzgYArMANCHU ALI GALI BHArALI GALI DAGALGA"),
   (0x18AA, "rMANCHU ALI GALI LHA"),
   (0x18B0, "aCANADIAN SYLLABICS OYtAYuAYtWAYtPOYuAYuWOYtTAYtKAYuWAYtMAYtNOYuAYtLAYtSOYuAYuHOYvAY"),
   (0x18C2, "vWOYtYOYuAYtRAYtNWItOJIBWAY NWItNWIItOJIBWAY NWIItNWOtOJIBWAY NWOtNWOOtOJIBWAY NWOO"),
   (0x18CE, "tRWEEvIwIvOwOvAtOJIBWAY PzcTzcKzcCzcMzcNzcSzdHtEASTERN WtWESTERN WtFINAL SMALL RING"),
   (0x18DF, "zRAISED DOTtR-CREE RWEtWEST-CREE LOOzfAAtTHWEwAuTHWEwOOwAAuLHWEwOOtSAYISI SHWEzdOO"),
   (0x18EC, "zbHOOtCARRIER GWUzcDENE GEEzcGAAzdWAtSAYISI JUUtCARRIER JWAtBEAVER DENE LzgR"),
   (0x18F5, "tCARRIER DENTAL S"),
   (0x1900, "aLIMBU VOWEL-CARRIER LETTERgLETTER KAoHAnGAoHAnNGAnCAoHAnJAoHAnYANnTAoHAnDAoHAnNAnPA"),
   (0x1911, "oHAnBAoHAnMAnYAnRAnLAnWAnSHAoSAoAnHAnGYANnTRA"),
   (0x1920, "gVOWEL SIGN ArIrUrEErAIrOOrAUrErOgSUBJOINED LETTER YAxRAxWA"),
   (0x1930, "hMALL LETTER KAtNGAtANUSVARAtTAtNAtPAtMAtRAtLAhIGN MUKPHRENGlKEMPHRENGlSA-I"),
   (0x1940, "lLOO"),
   (0x1944, "gEXCLAMATION MARKgQUESTION MARKgDIGIT ZEROmONEmTWOnHREEmFOURnIVEmSIXnEVENmEIGHTmNINE"),
   (0x1950, "aTAI LE LETTER KAoXAoNGAoTSAoSAoYAoTApHAoLAoPApHAoMAoFAoVAoHAoQAoKHAoTSHAoNAoAoIoEE"),
   (0x1966, "pHoUoOOoOoUEoEoAUEpI"),
   (0x1970, "oTONE-2t3t4t5t6"),
   (0x1980, "aNEW TAI LUE LETTER HIGH QAtLOW QAtHIGH KAyXAyNGAtLOW KAxXAxNGAtHIGH TSAySAyYA"),
   (0x198B, "tLOW TSAxSAxYAtHIGH TAzHAyNAtLOW TAyHAxNAtHIGH PAzHAyMAtLOW PAyHAxMAtHIGH FAyVAyLA"),
   (0x199D, "tLOW FAxVAxLAtHIGH HAyDAyBAtLOW HAxDAxBAtHIGH KVAyXVAtLOW KVAxXVAtHIGH SUAtLOW SUA"),
   (0x19B0, "mVOWEL SIGN VOWEL SHORTENERxAAxIIxUyUxExAExOyAxUExAYyAYxUYxOYyAYxUEYxIY"),
   (0x19C1, "mLETTER FINAL VzNGzNzMzKzDzBmTONE MARK-1w2"),
   (0x19D0, "mDIGIT ZEROsONEsTWOtHREEsFOURtIVEsSIXtEVENsEIGHTsNINEmTHAM DIGIT ONE"),
   (0x19DE, "mSIGN LAEuVaKHMER SYMBOL PATHAMASATnMUOY KOETnPII KOETnBEI KOEToUON KOETnPRAM KOET"),
   (0x19E6, "r-MUOY KOETsPII KOETsBEI KOETtUON KOETnDAP KOETq-MUOY KOETrPII KOETrBEI KOET"),
   (0x19EE, "sUON KOETrPRAM KOETnTUTEYASATnMUOY ROCnPII ROCnBEI ROCoUON ROCnPRAM ROCr-MUOY ROC"),
   (0x19F7, "sPII ROCsBEI ROCtUON ROCnDAP ROCq-MUOY ROCrPII ROCrBEI ROCsUON ROCrPRAM ROC"),
   (0x1A00, "aBUGINESE LETTER KAqGAqNGAsKAqPAqBAqMArPAqTAqDAqNArRAqCAqJAqNYAsCAqYAqRAqLAqVAqSAqA"),
   (0x1A16, "qHAjVOWEL SIGN IuUuEuOuAE"),
   (0x1A1E, "jPALLAWAjEND OF SECTIONaTAI THAM LETTER HIGH KAwHAwXAqLOW KAvXAvHAqNGAqHIGH CAwHA"),
   (0x1A29, "qLOW CAuSAuCHAqNYAqRATAqHIGH RATHAqDAqLOW RATHAqRANAqHIGH TAwHAqLOW TAvHAqNAqBA"),
   (0x1A38, "qHIGH PAwHAvFAqLOW PAuFAuPHAqMAqLOW YAqHIGH YAqRArUEqLArUEqWAqHIGH SHAwSAwAvHAqLLAqA"),
   (0x1A4C, "qLOW HAqIrIqUrUqEEqOOqLAEqGREAT SAjCONSONANT SIGN MEDIAL RAzgLAyLA TANG LAI"),
   (0x1A58, "jSIGN MAI KANG LAIjCONSONANT SIGN FINAL NGAyLOW PAyHIGH RATHA OR LOW PAyMAyBAySA"),
   (0x1A60, "jSIGN SAKOTjVOWEL SIGN AuMAI SATuAAuTALL AAuIvIuUEvUEuUvUuOvA BELOWvYuEuAEuOOuAI"),
   (0x1A72, "uTHAM AIuOA ABOVEjSIGN MAI KANGoTONE-1t2oKHUEN TONE-3z4z5oRA HAAMoMAI SAM"),
   (0x1A7C, "oKHUEN-LUE KARAN"),
   (0x1A7F, "jCOMBINING CRYPTOGRAMMIC DOTjHORA DIGIT ZEROuONEuTWOvHREEuFOURvIVEuSIXvEVENuEIGHT"),
   (0x1A89, "uNINE"),
   (0x1A90, "jTHAM DIGIT ZEROuONEuTWOvHREEuFOURvIVEuSIXvEVENuEIGHTuNINE"),
   (0x1AA0, "jSIGN WIANGtWAAKoSAWANoKEOWoHOYoDOKMAIoREVERSED ROTATED RANAoMAI YAMOKoKAANsKUU"),
   (0x1AAA, "oSATKAANvKUUoHANGoCAANG"),
   (0x1AB0, "aCOMBINING DOUBLED CIRCUMFLEX ACCENTlIAERESIS-RINGkINFINITYkDOWNWARDS ARROW"),
   (0x1AB4, "kTRIPLE DOTkX-X BELOWkWIGGLY LINE BELOWkOPEN MARK BELOWkDOUBLE OPEN MARK BELOW"),
   (0x1AB9, "kLIGHT CENTRALIZATION STROKE BELOWkSTRONG CENTRALIZATION STROKE BELOW"),
   (0x1ABB, "kPARENTHESES ABOVEkDOUBLE PARENTHESES ABOVEkPARENTHESES BELOWwOVERLAY"),
   (0x1ABF, "kLATIN SMALL LETTER W BELOWzeTURNED W BELOWlEFT PARENTHESIS ABOVE LEFT"),
   (0x1AC2, "kRIGHT PARENTHESIS ABOVE RIGHTkLEFT PARENTHESIS BELOW LEFT"),
   (0x1AC4, "kRIGHT PARENTHESIS BELOW RIGHTkSQUARE BRACKETS ABOVEkNUMBER SIGN ABOVE"),
   (0x1AC7, "kINVERTED DOUBLE ARCH ABOVEkPLUS SIGN ABOVEkDOUBLE PLUS SIGN ABOVEzcBELOW"),
   (0x1ACB, "kTRIPLE ACUTE ACCENTkLATIN SMALL LETTER INSULAR GzmRzmT"),
   (0x1B00, "aBALINESE SIGN ULU RICEMsCANDRAoCECEKoSURANGoBISAHjLETTER AKARAv TEDUNGqIKARA"),
   (0x1B08, "v TEDUNGqUKARAv TEDUNGqRA REPAx TEDUNGqLA LENGAy TEDUNGqEKARAqAIKARAqOKARAv TEDUNG"),
   (0x1B13, "qKAs MAHAPRANAqGAs GORAqNGAqCAs LACAqJAs JERAqNYAqTA LATIKtMURDA MAHAPRANA"),
   (0x1B1F, "qDA MURDA ALPAPRANAzMAHAPRANAqNA RAMBATqTAs TAWAqDAs MADUqNAqPAs KAPALqBAs KEMBANG"),
   (0x1B2B, "qMAqYAqRAqLAqWAqSA SAGAvPArAqHAjSIGN REREKANjVOWEL SIGN TEDUNGuULUx SARIuSUKUy ILUT"),
   (0x1B3A, "uRA REPAzc TEDUNGuLA LENGAzd TEDUNGuTALINGzb REPAzcTEDUNGzcREPA TEDUNGuPEPETz TEDUNG"),
   (0x1B44, "jADEG ADEGjLETTER KAF SASAKrHOT SASAKqTZIR SASAKqEF SASAKqVE SASAKqZAL SASAK"),
   (0x1B4B, "qASYURA SASAKrRCHAIC JNYA"),
   (0x1B50, "jDIGIT ZEROpONEpTWOqHREEpFOURqIVEpSIXqEVENpEIGHTpNINEjPANTIlMADAjWINDU"),
   (0x1B5D, "jCARIK PAMUNGKAHpSIKIpPARERENjPAMENENGjMUSICAL SYMBOL DONGzENGzUNGzANGzd SURANGzING"),
   (0x1B67, "zAENGzEUNGzAINGzbNG GEDEyCOMBINING TEGEHzjENDEPzjKEMPULznLIzjJEGOGAN"),
   (0x1B70, "zjKEMPUL WITH JEGOGANznLI WITH JEGOGANzjBENDEzjGONGyRIGHT-HAND OPEN DUGzqAG"),
   (0x1B76, "zkCLOSED TUKzsAKyLEFT-HAND OPEN PANGzpUNGzjCLOSED PLAKzsUKzjOPEN PINGjPANTI LANTANG"),
   (0x1B7E, "lMADA LANTANG"),
   (0x1B80, "aSUNDANESE SIGN PANYECEKsGLAYARtWISADkLETTER ArIrUrAErOrEsUrKArQArGArNGArCArJArZA"),
   (0x1B91, "rNYArTArDArNArPArFArVArBArMArYArRArLArWArSArXArHAkCONSONANT SIGN PAMINGKALzcNYAKRA"),
   (0x1BA3, "zeIKUkVOWEL SIGN PANGHULUyYUKUyAELAENGyOLONGxMEPETxNEULEUNGkSIGN PAMAAEHpVIRAMA"),
   (0x1BAC, "kCONSONANT SIGN PASANGAN MAzjWAkLETTER KHArSYAkDIGIT ZEROqONEqTWOrHREEqFOURrIVEqSIX"),
   (0x1BB7, "rEVENqEIGHTqNINEkAVAGRAHAkLETTER REUrLEUrBHArFINAL KxMaBATAK LETTER AnSIMALUNGUN A"),
   (0x1BC2, "nHAnSIMALUNGUN HAnMANDAILING HAnBAnKARO BAnPAnSIMALUNGUN PAnNAnMANDAILING NAnWA"),
   (0x1BCC, "nSIMALUNGUN WAnPAKPAK WAnGAnSIMALUNGUN GAnJAnDAnRAnSIMALUNGUN RAnMAnSIMALUNGUN MA"),
   (0x1BD6, "oOUTHERN TAnNORTHERN TAnSAoIMALUNGUN SAnMANDAILING SAnYAnSIMALUNGUN YAnNGAnLA"),
   (0x1BDF, "nSIMALUNGUN LAnNYAnCAnNDAnMBAnInUgSIGN TOMPIgVOWEL SIGN ErPAKPAK ErEErIrKARO IrO"),
   (0x1BED, "rKARO OrUs FOR SIMALUNGUN SAgCONSONANT SIGN NGvHgPANGOLATjONGONAN"),
   (0x1BFC, "gSYMBOL BINDU NA METEKtPINARBORAStJUDULtPANGOLATaLEPCHA LETTER KApLApHAoGApLAoNGAoCA"),
   (0x1C07, "pHAoJAoNYAoTApHAoDAoNAoPApLApHAoFApLAoBApLAoMApLAoTSAqHAoDZAoYAoRAoLAoHApLAoVAoSApHA"),
   (0x1C22, "oWAoAhSUBJOINED LETTER YAyRAhVOWEL SIGN AAsIsOtOsUtUsEhCONSONANT SIGN KwMwLwNwPwRwT"),
   (0x1C34, "wNYIN-DOwKANGhSIGN RANmNUKTA"),
   (0x1C3B, "hPUNCTUATION TA-ROLtNYET THYOOM TA-ROLtCER-WAtTSHOOK CER-WAyKhDIGIT ZEROnONEnTWO"),
   (0x1C43, "oHREEnFOURoIVEnSIXoEVENnEIGHTnNINE"),
   (0x1C4D, "hLETTER TTAqHAoDDAaOL CHIKI DIGIT ZEROpONEpTWOqHREEpFOURqIVEpSIXqEVENpEIGHTpNINE"),
   (0x1C5A, "jLETTER LAqATrGrNGrLqLAAqAAKsJsMsWqLIqISrHrNYrRqLUqUCrDrNNrYqLEqEPrDDrNrRRqLOqOTTrB"),
   (0x1C76, "rVrHjMU TTUDDAGjGAAHLAA TTUDDAAGjMU-GAAHLAA TTUDDAAGjRELAAjPHAARKAAjAHAD"),
   (0x1C7E, "jPUNCTUATION MUCAADvDOUBLE MUCAADaCYRILLIC SMALL LETTER ROUNDED VEwLONG-LEGGED DE"),
   (0x1C82, "wNARROW OwWIDE ESwTALL TExHREE-LEGGED TExALL HARD SIGNzcYATwUNBLENDED UK"),
   (0x1C90, "aGEORGIAN MTAVRULI CAPITAL LETTER ANziBANziGANziDONziENziVINziZENziTANziINziKANziLAS"),
   (0x1C9B, "ziMANziNARziONziPARziZHARziRAEziSANziTARziUNziPHARziKHARziGHANziQARziSHINziCHINzjAN"),
   (0x1CAB, "ziJILziCILzjHARziXANziJHANziHAEzjEzjIEziWEziHARzjOEziFIziYNziELIFIziTURNED GANziAIN"),
   (0x1CBD, "zjENziHARD SIGNziLABIAL SIGNaSUNDANESE PUNCTUATION BINDU SURYAzdPANGLONGzeURNAMA"),
   (0x1CC3, "zdCAKRAzdLEU SATANGAzdKA SATANGAzdDA SATANGAzdBA SATANGA"),
   (0x1CD0, "aVEDIC TONE KARSHANAlSHARAlPRENKHAgSIGN NIHSHVASAlYAJURVEDIC MIDLINE SVARITA"),
   (0x1CD5, "gTONE YAJURVEDIC AGGRAVATED INDEPENDENT SVARITAwINDEPENDENT SVARITA"),
   (0x1CD7, "wKATHAKA INDEPENDENT SVARITAlCANDRA BELOW"),
   (0x1CD9, "lYAJURVEDIC KATHAKA INDEPENDENT SVARITA SCHROEDERlDOUBLE SVARITAlTRIPLE SVARITA"),
   (0x1CDC, "lKATHAKA ANUDATTAlDOT BELOWlTWO DOTS BELOWmHREE DOTS BELOW"),
   (0x1CE0, "lRIGVEDIC KASHMIRI INDEPENDENT SVARITAlATHARVAVEDIC INDEPENDENT SVARITA"),
   (0x1CE2, "gSIGN VISARGA SVARITAtUDATTAlREVERSED VISARGA UDATTAlVISARGA ANUDATTA"),
   (0x1CE6, "lREVERSED VISARGA ANUDATTAlVISARGA UDATTA WITH TAILtANUDATTA WITH TAIL"),
   (0x1CE9, "lANUSVARA ANTARGOMUKHAuBAHIRGOMUKHAuVAMAGOMUKHAzg WITH TAILlTIRYAK"),
   (0x1CEE, "lHEXIFORM LONG ANUSVARAlLONG ANUSVARAlRTHANG LONG ANUSVARAlANUSVARA UBHAYATO MUKHA"),
   (0x1CF2, "mRDHAVISARGAlROTATED ARDHAVISARGAgTONE CANDRA ABOVEgSIGN JIHVAMULIYAlUPADHMANIYA"),
   (0x1CF7, "lATIKRAMAgTONE RING ABOVElDOUBLE RING ABOVEgSIGN DOUBLE ANUSVARA ANTARGOMUKHA"),
   (0x1D00, "aLATIN LETTER SMALL CAPITAL AzdEgSMALL LETTER TURNED AE"),
   (0x1D03, "gLETTER SMALL CAPITAL BARRED BzcCzcDzcETHzcEgSMALL LETTER TURNED OPEN EzbI"),
   (0x1D0A, "gLETTER SMALL CAPITAL JzcKzcL WITH STROKEzcMzcREVERSED NzcOzdPEN O"),
   (0x1D11, "gSMALL LETTER SIDEWAYS OzePEN Oze WITH STROKEtTURNED OEgLETTER SMALL CAPITAL OU"),
   (0x1D16, "gSMALL LETTER TOP HALF OtBOTTOM HALF OgLETTER SMALL CAPITAL PzcREVERSED RzcTURNED R"),
   (0x1D1B, "zcTzcUgSMALL LETTER SIDEWAYS UzdDIAERESIZED UzdTURNED MgLETTER SMALL CAPITAL VzcWzcZ"),
   (0x1D23, "zcEZHnVOICED LARYNGEAL SPIRANTnAINaGREEK LETTER SMALL CAPITAL GAMMAzcLAMDAzcPIzcRHO"),
   (0x1D2A, "zcPSIaCYRILLIC LETTER SMALL CAPITAL ELaMODIFIER LETTER CAPITAL AzEyBzARRED ByDyE"),
   (0x1D32, "yREVERSED EyGyHyIyJyKyLyMyNyREVERSED NyOzUyPyRyTyUyWqSMALL AwTURNED AwALPHA"),
   (0x1D46, "wTURNED AEwBwDwEwSCHWAwOPEN EwTURNED OPEN EwGwTURNED IwKwMwENGwOxPEN OwTOP HALF O"),
   (0x1D55, "wBOTTOM HALF OwPwTwUwSIDEWAYS UwTURNED MwVwAINwBETAwGREEK GAMMAwDELTAwGREEK PHIwCHI"),
   (0x1D62, "aLATIN SUBSCRIPT SMALL LETTER IzeRzeUzeVaGREEK SUBSCRIPT SMALL LETTER BETAzeGAMMA"),
   (0x1D68, "zeRHOzePHIzeCHIaLATIN SMALL LETTER UEtB WITH MIDDLE TILDEtD WITH MIDDLE TILDE"),
   (0x1D6E, "tF WITH MIDDLE TILDEtM WITH MIDDLE TILDEtN WITH MIDDLE TILDEtP WITH MIDDLE TILDE"),
   (0x1D72, "tR WITH MIDDLE TILDEzbFISHHOOK AND MIDDLE TILDEtS WITH MIDDLE TILDE"),
   (0x1D75, "tT WITH MIDDLE TILDEtZ WITH MIDDLE TILDEtTURNED GaMODIFIER LETTER CYRILLIC EN"),
   (0x1D79, "aLATIN SMALL LETTER INSULAR GtTH WITH STRIKETHROUGHmCAPITAL LETTER I WITH STROKE"),
   (0x1D7C, "mLETTER IOTA WITH STROKEtP WITH STROKEmCAPITAL LETTER U WITH STROKE"),
   (0x1D7F, "mLETTER UPSILON WITH STROKEtB WITH PALATAL HOOKtD WITH PALATAL HOOK"),
   (0x1D82, "tF WITH PALATAL HOOKtG WITH PALATAL HOOKtK WITH PALATAL HOOKtL WITH PALATAL HOOK"),
   (0x1D86, "tM WITH PALATAL HOOKtN WITH PALATAL HOOKtP WITH PALATAL HOOKtR WITH PALATAL HOOK"),
   (0x1D8A, "tS WITH PALATAL HOOKtESH WITH PALATAL HOOKtV WITH PALATAL HOOKtX WITH PALATAL HOOK"),
   (0x1D8E, "tZ WITH PALATAL HOOKtA WITH RETROFLEX HOOKuLPHA WITH RETROFLEX HOOK"),
   (0x1D91, "tD WITH HOOK AND TAILtE WITH RETROFLEX HOOKtOPEN E WITH RETROFLEX HOOK"),
   (0x1D94, "tREVERSED OPEN E WITH RETROFLEX HOOKtSCHWA WITH RETROFLEX HOOKtI WITH RETROFLEX HOOK"),
   (0x1D97, "tOPEN O WITH RETROFLEX HOOKtESH WITH RETROFLEX HOOKtU WITH RETROFLEX HOOK"),
   (0x1D9A, "tEZH WITH RETROFLEX HOOKaMODIFIER LETTER SMALL TURNED ALPHAwCx WITH CURLwETH"),
   (0x1D9F, "wREVERSED OPEN EwFwDOTLESS J WITH STROKEwSCRIPT GwTURNED HwI WITH STROKExOTA"),
   (0x1DA6, "wCAPITAL Izg WITH STROKEwJ WITH CROSSED-TAILwL WITH RETROFLEX HOOKzePALATAL HOOK"),
   (0x1DAB, "wCAPITAL LwM WITH HOOKwTURNED M WITH LONG LEGwN WITH LEFT HOOKzeRETROFLEX HOOK"),
   (0x1DB0, "wCAPITAL NwBARRED OwPHIwS WITH HOOKwESHwT WITH PALATAL HOOKwU BARxPSILONwCAPITAL U"),
   (0x1DB9, "wV WITH HOOKwTURNED VwZx WITH RETROFLEX HOOKzeCURLwEZHwTHETA"),
   (0x1DC0, "aCOMBINING DOTTED GRAVE ACCENTrACUTE ACCENTkSNAKE BELOWlUSPENSION MARKkMACRON-ACUTE"),
   (0x1DC5, "kGRAVE-MACRONkMACRON-GRAVEkACUTE-MACRONkGRAVE-ACUTE-GRAVEkACUTE-GRAVE-ACUTE"),
   (0x1DCA, "kLATIN SMALL LETTER R BELOWkBREVE-MACRONkMACRON-BREVEkDOUBLE CIRCUMFLEX ABOVE"),
   (0x1DCE, "kOGONEK ABOVEkZIGZAG BELOWkIS BELOWkUR ABOVElS ABOVE"),
   (0x1DD3, "kLATIN SMALL LETTER FLATTENED OPEN A ABOVEzeAEzfOzfVzeC CEDILLAzeINSULAR DzeETHzeG"),
   (0x1DDB, "qLETTER SMALL CAPITAL GqSMALL LETTER KzeLqLETTER SMALL CAPITAL LzmMqSMALL LETTER N"),
   (0x1DE1, "qLETTER SMALL CAPITAL NzmRqSMALL LETTER R ROTUNDAzeSzeLONG SzeZzeALPHAzeBzfETA"),
   (0x1DEA, "zeSCHWAzeFzeL WITH DOUBLE MIDDLE TILDEzeO WITH LIGHT CENTRALIZATION STROKEzePzeESH"),
   (0x1DF0, "zeU WITH LIGHT CENTRALIZATION STROKEzeWzeA WITH DIAERESISzeO WITH DIAERESIS"),
   (0x1DF4, "zeU WITH DIAERESISkUP TACK ABOVEkKAVYKA ABOVE RIGHTxLEFTkDOT ABOVE LEFT"),
   (0x1DF9, "kWIDE INVERTED BRIDGE BELOWkDOT BELOW LEFTlELETION MARKlOUBLE INVERTED BREVE BELOW"),
   (0x1DFD, "kALMOST EQUAL TO BELOWkLEFT ARROWHEAD ABOVEkRIGHT ARROWHEAD AND DOWN ARROWHEAD BELOW"),
   (0x1E00, "aLATIN CAPITAL LETTER A WITH RING BELOWgSMALL LETTER A WITH RING BELOW"),
   (0x1E02, "gCAPITAL LETTER B WITH DOT ABOVEgSMALL LETTER B WITH DOT ABOVE"),
   (0x1E04, "gCAPITAL LETTER B WITH DOT BELOWgSMALL LETTER B WITH DOT BELOW"),
   (0x1E06, "gCAPITAL LETTER B WITH LINE BELOWgSMALL LETTER B WITH LINE BELOW"),
   (0x1E08, "gCAPITAL LETTER C WITH CEDILLA AND ACUTEgSMALL LETTER C WITH CEDILLA AND ACUTE"),
   (0x1E0A, "gCAPITAL LETTER D WITH DOT ABOVEgSMALL LETTER D WITH DOT ABOVE"),
   (0x1E0C, "gCAPITAL LETTER D WITH DOT BELOWgSMALL LETTER D WITH DOT BELOW"),
   (0x1E0E, "gCAPITAL LETTER D WITH LINE BELOWgSMALL LETTER D WITH LINE BELOW"),
   (0x1E10, "gCAPITAL LETTER D WITH CEDILLAgSMALL LETTER D WITH CEDILLA"),
   (0x1E12, "gCAPITAL LETTER D WITH CIRCUMFLEX BELOWgSMALL LETTER D WITH CIRCUMFLEX BELOW"),
   (0x1E14, "gCAPITAL LETTER E WITH MACRON AND GRAVEgSMALL LETTER E WITH MACRON AND GRAVE"),
   (0x1E16, "gCAPITAL LETTER E WITH MACRON AND ACUTEgSMALL LETTER E WITH MACRON AND ACUTE"),
   (0x1E18, "gCAPITAL LETTER E WITH CIRCUMFLEX BELOWgSMALL LETTER E WITH CIRCUMFLEX BELOW"),
   (0x1E1A, "gCAPITAL LETTER E WITH TILDE BELOWgSMALL LETTER E WITH TILDE BELOW"),
   (0x1E1C, "gCAPITAL LETTER E WITH CEDILLA AND BREVEgSMALL LETTER E WITH CEDILLA AND BREVE"),
   (0x1E1E, "gCAPITAL LETTER F WITH DOT ABOVEgSMALL LETTER F WITH DOT ABOVE"),
   (0x1E20, "gCAPITAL LETTER G WITH MACRONgSMALL LETTER G WITH MACRON"),
   (0x1E22, "gCAPITAL LETTER H WITH DOT ABOVEgSMALL LETTER H WITH DOT ABOVE"),
   (0x1E24, "gCAPITAL LETTER H WITH DOT BELOWgSMALL LETTER H WITH DOT BELOW"),
   (0x1E26, "gCAPITAL LETTER H WITH DIAERESISgSMALL LETTER H WITH DIAERESIS"),
   (0x1E28, "gCAPITAL LETTER H WITH CEDILLAgSMALL LETTER H WITH CEDILLA"),
   (0x1E2A, "gCAPITAL LETTER H WITH BREVE BELOWgSMALL LETTER H WITH BREVE BELOW"),
   (0x1E2C, "gCAPITAL LETTER I WITH TILDE BELOWgSMALL LETTER I WITH TILDE BELOW"),
   (0x1E2E, "gCAPITAL LETTER I WITH DIAERESIS AND ACUTEgSMALL LETTER I WITH DIAERESIS AND ACUTE"),
   (0x1E30, "gCAPITAL LETTER K WITH ACUTEgSMALL LETTER K WITH ACUTE"),
   (0x1E32, "gCAPITAL LETTER K WITH DOT BELOWgSMALL LETTER K WITH DOT BELOW"),
   (0x1E34, "gCAPITAL LETTER K WITH LINE BELOWgSMALL LETTER K WITH LINE BELOW"),
   (0x1E36, "gCAPITAL LETTER L WITH DOT BELOWgSMALL LETTER L WITH DOT BELOW"),
   (0x1E38, "gCAPITAL LETTER L WITH DOT BELOW AND MACRONgSMALL LETTER L WITH DOT BELOW AND MACRON"),
   (0x1E3A, "gCAPITAL LETTER L WITH LINE BELOWgSMALL LETTER L WITH LINE BELOW"),
   (0x1E3C, "gCAPITAL LETTER L WITH CIRCUMFLEX BELOWgSMALL LETTER L WITH CIRCUMFLEX BELOW"),
   (0x1E3E, "gCAPITAL LETTER M WITH ACUTEgSMALL LETTER M WITH ACUTE"),
   (0x1E40, "gCAPITAL LETTER M WITH DOT ABOVEgSMALL LETTER M WITH DOT ABOVE"),
   (0x1E42, "gCAPITAL LETTER M WITH DOT BELOWgSMALL LETTER M WITH DOT BELOW"),
   (0x1E44, "gCAPITAL LETTER N WITH DOT ABOVEgSMALL LETTER N WITH DOT ABOVE"),
   (0x1E46, "gCAPITAL LETTER N WITH DOT BELOWgSMALL LETTER N WITH DOT BELOW"),
   (0x1E48, "gCAPITAL LETTER N WITH LINE BELOWgSMALL LETTER N WITH LINE BELOW"),
   (0x1E4A, "gCAPITAL LETTER N WITH CIRCUMFLEX BELOWgSMALL LETTER N WITH CIRCUMFLEX BELOW"),
   (0x1E4C, "gCAPITAL LETTER O WITH TILDE AND ACUTEgSMALL LETTER O WITH TILDE AND ACUTE"),
   (0x1E4E, "gCAPITAL LETTER O WITH TILDE AND DIAERESISgSMALL LETTER O WITH TILDE AND DIAERESIS"),
   (0x1E50, "gCAPITAL LETTER O WITH MACRON AND GRAVEgSMALL LETTER O WITH MACRON AND GRAVE"),
   (0x1E52, "gCAPITAL LETTER O WITH MACRON AND ACUTEgSMALL LETTER O WITH MACRON AND ACUTE"),
   (0x1E54, "gCAPITAL LETTER P WITH ACUTEgSMALL LETTER P WITH ACUTE"),
   (0x1E56, "gCAPITAL LETTER P WITH DOT ABOVEgSMALL LETTER P WITH DOT ABOVE"),
   (0x1E58, "gCAPITAL LETTER R WITH DOT ABOVEgSMALL LETTER R WITH DOT ABOVE"),
   (0x1E5A, "gCAPITAL LETTER R WITH DOT BELOWgSMALL LETTER R WITH DOT BELOW"),
   (0x1E5C, "gCAPITAL LETTER R WITH DOT BELOW AND MACRONgSMALL LETTER R WITH DOT BELOW AND MACRON"),
   (0x1E5E, "gCAPITAL LETTER R WITH LINE BELOWgSMALL LETTER R WITH LINE BELOW"),
   (0x1E60, "gCAPITAL LETTER S WITH DOT ABOVEgSMALL LETTER S WITH DOT ABOVE"),
   (0x1E62, "gCAPITAL LETTER S WITH DOT BELOWgSMALL LETTER S WITH DOT BELOW"),
   (0x1E64, "gCAPITAL LETTER S WITH ACUTE AND DOT ABOVEgSMALL LETTER S WITH ACUTE AND DOT ABOVE"),
   (0x1E66, "gCAPITAL LETTER S WITH CARON AND DOT ABOVEgSMALL LETTER S WITH CARON AND DOT ABOVE"),
   (0x1E68, "gCAPITAL LETTER S WITH DOT BELOW AND DOT ABOVE"),
   (0x1E69, "gSMALL LETTER S WITH DOT BELOW AND DOT ABOVEgCAPITAL LETTER T WITH DOT ABOVE"),
   (0x1E6B, "gSMALL LETTER T WITH DOT ABOVEgCAPITAL LETTER T WITH DOT BELOW"),
   (0x1E6D, "gSMALL LETTER T WITH DOT BELOWgCAPITAL LETTER T WITH LINE BELOW"),
   (0x1E6F, "gSMALL LETTER T WITH LINE BELOWgCAPITAL LETTER T WITH CIRCUMFLEX BELOW"),
   (0x1E71, "gSMALL LETTER T WITH CIRCUMFLEX BELOWgCAPITAL LETTER U WITH DIAERESIS BELOW"),
   (0x1E73, "gSMALL LETTER U WITH DIAERESIS BELOWgCAPITAL LETTER U WITH TILDE BELOW"),
   (0x1E75, "gSMALL LETTER U WITH TILDE BELOWgCAPITAL LETTER U WITH CIRCUMFLEX BELOW"),
   (0x1E77, "gSMALL LETTER U WITH CIRCUMFLEX BELOWgCAPITAL LETTER U WITH TILDE AND ACUTE"),
   (0x1E79, "gSMALL LETTER U WITH TILDE AND ACUTEgCAPITAL LETTER U WITH MACRON AND DIAERESIS"),
   (0x1E7B, "gSMALL LETTER U WITH MACRON AND DIAERESISgCAPITAL LETTER V WITH TILDE"),
   (0x1E7D, "gSMALL LETTER V WITH TILDEgCAPITAL LETTER V WITH DOT BELOW"),
   (0x1E7F, "gSMALL LETTER V WITH DOT BELOWgCAPITAL LETTER W WITH GRAVEgSMALL LETTER W WITH GRAVE"),
   (0x1E82, "gCAPITAL LETTER W WITH ACUTEgSMALL LETTER W WITH ACUTE"),
   (0x1E84, "gCAPITAL LETTER W WITH DIAERESISgSMALL LETTER W WITH DIAERESIS"),
   (0x1E86, "gCAPITAL LETTER W WITH DOT ABOVEgSMALL LETTER W WITH DOT ABOVE"),
   (0x1E88, "gCAPITAL LETTER W WITH DOT BELOWgSMALL LETTER W WITH DOT BELOW"),
   (0x1E8A, "gCAPITAL LETTER X WITH DOT ABOVEgSMALL LETTER X WITH DOT ABOVE"),
   (0x1E8C, "gCAPITAL LETTER X WITH DIAERESISgSMALL LETTER X WITH DIAERESIS"),
   (0x1E8E, "gCAPITAL LETTER Y WITH DOT ABOVEgSMALL LETTER Y WITH DOT ABOVE"),
   (0x1E90, "gCAPITAL LETTER Z WITH CIRCUMFLEXgSMALL LETTER Z WITH CIRCUMFLEX"),
   (0x1E92, "gCAPITAL LETTER Z WITH DOT BELOWgSMALL LETTER Z WITH DOT BELOW"),
   (0x1E94, "gCAPITAL LETTER Z WITH LINE BELOWgSMALL LETTER Z WITH LINE BELOWtH WITH LINE BELOW"),
   (0x1E97, "tT WITH DIAERESIStW WITH RING ABOVEtY WITH RING ABOVEtA WITH RIGHT HALF RING"),
   (0x1E9B, "tLONG S WITH DOT ABOVEzhIAGONAL STROKEzgHIGH STROKEgCAPITAL LETTER SHARP S"),
   (0x1E9F, "gSMALL LETTER DELTAgCAPITAL LETTER A WITH DOT BELOWgSMALL LETTER A WITH DOT BELOW"),
   (0x1EA2, "gCAPITAL LETTER A WITH HOOK ABOVEgSMALL LETTER A WITH HOOK ABOVE"),
   (0x1EA4, "gCAPITAL LETTER A WITH CIRCUMFLEX AND ACUTEgSMALL LETTER A WITH CIRCUMFLEX AND ACUTE"),
   (0x1EA6, "gCAPITAL LETTER A WITH CIRCUMFLEX AND GRAVEgSMALL LETTER A WITH CIRCUMFLEX AND GRAVE"),
   (0x1EA8, "gCAPITAL LETTER A WITH CIRCUMFLEX AND HOOK ABOVE"),
   (0x1EA9, "gSMALL LETTER A WITH CIRCUMFLEX AND HOOK ABOVE"),
   (0x1EAA, "gCAPITAL LETTER A WITH CIRCUMFLEX AND TILDEgSMALL LETTER A WITH CIRCUMFLEX AND TILDE"),
   (0x1EAC, "gCAPITAL LETTER A WITH CIRCUMFLEX AND DOT BELOW"),
   (0x1EAD, "gSMALL LETTER A WITH CIRCUMFLEX AND DOT BELOWgCAPITAL LETTER A WITH BREVE AND ACUTE"),
   (0x1EAF, "gSMALL LETTER A WITH BREVE AND ACUTEgCAPITAL LETTER A WITH BREVE AND GRAVE"),
   (0x1EB1, "gSMALL LETTER A WITH BREVE AND GRAVEgCAPITAL LETTER A WITH BREVE AND HOOK ABOVE"),
   (0x1EB3, "gSMALL LETTER A WITH BREVE AND HOOK ABOVEgCAPITAL LETTER A WITH BREVE AND TILDE"),
   (0x1EB5, "gSMALL LETTER A WITH BREVE AND TILDEgCAPITAL LETTER A WITH BREVE AND DOT BELOW"),
   (0x1EB7, "gSMALL LETTER A WITH BREVE AND DOT BELOWgCAPITAL LETTER E WITH DOT BELOW"),
   (0x1EB9, "gSMALL LETTER E WITH DOT BELOWgCAPITAL LETTER E WITH HOOK ABOVE"),
   (0x1EBB, "gSMALL LETTER E WITH HOOK ABOVEgCAPITAL LETTER E WITH TILDE"),
   (0x1EBD, "gSMALL LETTER E WITH TILDEgCAPITAL LETTER E WITH CIRCUMFLEX AND ACUTE"),
   (0x1EBF, "gSMALL LETTER E WITH CIRCUMFLEX AND ACUTEgCAPITAL LETTER E WITH CIRCUMFLEX AND GRAVE"),
   (0x1EC1, "gSMALL LETTER E WITH CIRCUMFLEX AND GRAVE"),
   (0x1EC2, "gCAPITAL LETTER E WITH CIRCUMFLEX AND HOOK ABOVE"),
   (0x1EC3, "gSMALL LETTER E WITH CIRCUMFLEX AND HOOK ABOVE"),
   (0x1EC4, "gCAPITAL LETTER E WITH CIRCUMFLEX AND TILDEgSMALL LETTER E WITH CIRCUMFLEX AND TILDE"),
   (0x1EC6, "gCAPITAL LETTER E WITH CIRCUMFLEX AND DOT BELOW"),
   (0x1EC7, "gSMALL LETTER E WITH CIRCUMFLEX AND DOT BELOWgCAPITAL LETTER I WITH HOOK ABOVE"),
   (0x1EC9, "gSMALL LETTER I WITH HOOK ABOVEgCAPITAL LETTER I WITH DOT BELOW"),
   (0x1ECB, "gSMALL LETTER I WITH DOT BELOWgCAPITAL LETTER O WITH DOT BELOW"),
   (0x1ECD, "gSMALL LETTER O WITH DOT BELOWgCAPITAL LETTER O WITH HOOK ABOVE"),
   (0x1ECF, "gSMALL LETTER O WITH HOOK ABOVEgCAPITAL LETTER O WITH CIRCUMFLEX AND ACUTE"),
   (0x1ED1, "gSMALL LETTER O WITH CIRCUMFLEX AND ACUTEgCAPITAL LETTER O WITH CIRCUMFLEX AND GRAVE"),
   (0x1ED3, "gSMALL LETTER O WITH CIRCUMFLEX AND GRAVE"),
   (0x1ED4, "gCAPITAL LETTER O WITH CIRCUMFLEX AND HOOK ABOVE"),
   (0x1ED5, "gSMALL LETTER O WITH CIRCUMFLEX AND HOOK ABOVE"),
   (0x1ED6, "gCAPITAL LETTER O WITH CIRCUMFLEX AND TILDEgSMALL LETTER O WITH CIRCUMFLEX AND TILDE"),
   (0x1ED8, "gCAPITAL LETTER O WITH CIRCUMFLEX AND DOT BELOW"),
   (0x1ED9, "gSMALL LETTER O WITH CIRCUMFLEX AND DOT BELOWgCAPITAL LETTER O WITH HORN AND ACUTE"),
   (0x1EDB, "gSMALL LETTER O WITH HORN AND ACUTEgCAPITAL LETTER O WITH HORN AND GRAVE"),
   (0x1EDD, "gSMALL LETTER O WITH HORN AND GRAVEgCAPITAL LETTER O WITH HORN AND HOOK ABOVE"),
   (0x1EDF, "gSMALL LETTER O WITH HORN AND HOOK ABOVEgCAPITAL LETTER O WITH HORN AND TILDE"),
   (0x1EE1, "gSMALL LETTER O WITH HORN AND TILDEgCAPITAL LETTER O WITH HORN AND DOT BELOW"),
   (0x1EE3, "gSMALL LETTER O WITH HORN AND DOT BELOWgCAPITAL LETTER U WITH DOT BELOW"),
   (0x1EE5, "gSMALL LETTER U WITH DOT BELOWgCAPITAL LETTER U WITH HOOK ABOVE"),
   (0x1EE7, "gSMALL LETTER U WITH HOOK ABOVEgCAPITAL LETTER U WITH HORN AND ACUTE"),
   (0x1EE9, "gSMALL LETTER U WITH HORN AND ACUTEgCAPITAL LETTER U WITH HORN AND GRAVE"),
   (0x1EEB, "gSMALL LETTER U WITH HORN AND GRAVEgCAPITAL LETTER U WITH HORN AND HOOK ABOVE"),
   (0x1EED, "gSMALL LETTER U WITH HORN AND HOOK ABOVEgCAPITAL LETTER U WITH HORN AND TILDE"),
   (0x1EEF, "gSMALL LETTER U WITH HORN AND TILDEgCAPITAL LETTER U WITH HORN AND DOT BELOW"),
   (0x1EF1, "gSMALL LETTER U WITH HORN AND DOT BELOWgCAPITAL LETTER Y WITH GRAVE"),
   (0x1EF3, "gSMALL LETTER Y WITH GRAVEgCAPITAL LETTER Y WITH DOT BELOW"),
   (0x1EF5, "gSMALL LETTER Y WITH DOT BELOWgCAPITAL LETTER Y WITH HOOK ABOVE"),
   (0x1EF7, "gSMALL LETTER Y WITH HOOK ABOVEgCAPITAL LETTER Y WITH TILDE"),
   (0x1EF9, "gSMALL LETTER Y WITH TILDEgCAPITAL LETTER MIDDLE-WELSH LL"),
   (0x1EFB, "gSMALL LETTER MIDDLE-WELSH LLgCAPITAL LETTER MIDDLE-WELSH V"),
   (0x1EFD, "gSMALL LETTER MIDDLE-WELSH VgCAPITAL LETTER Y WITH LOOPgSMALL LETTER Y WITH LOOP"),
   (0x1F00, "aGREEK SMALL LETTER ALPHA WITH PSILIzfDASIAzfPSILI AND VARIAzfDASIA AND VARIA"),
   (0x1F04, "zfPSILI AND OXIAzfDASIA AND OXIAzfPSILI AND PERISPOMENIzfDASIA AND PERISPOMENI"),
   (0x1F08, "gCAPITAL LETTER ALPHA WITH PSILIzhDASIAzhPSILI AND VARIAzhDASIA AND VARIA"),
   (0x1F0C, "zhPSILI AND OXIAzhDASIA AND OXIAzhPSILI AND PERISPOMENIzhDASIA AND PERISPOMENI"),
   (0x1F10, "gSMALL LETTER EPSILON WITH PSILIzhDASIAzhPSILI AND VARIAzhDASIA AND VARIA"),
   (0x1F14, "zhPSILI AND OXIAzhDASIA AND OXIA"),
   (0x1F18, "gCAPITAL LETTER EPSILON WITH PSILIzjDASIAzjPSILI AND VARIAzjDASIA AND VARIA"),
   (0x1F1C, "zjPSILI AND OXIAzjDASIA AND OXIA"),
   (0x1F20, "gSMALL LETTER ETA WITH PSILIzdDASIAzdPSILI AND VARIAzdDASIA AND VARIA"),
   (0x1F24, "zdPSILI AND OXIAzdDASIA AND OXIAzdPSILI AND PERISPOMENIzdDASIA AND PERISPOMENI"),
   (0x1F28, "gCAPITAL LETTER ETA WITH PSILIzfDASIAzfPSILI AND VARIAzfDASIA AND VARIA"),
   (0x1F2C, "zfPSILI AND OXIAzfDASIA AND OXIAzfPSILI AND PERISPOMENIzfDASIA AND PERISPOMENI"),
   (0x1F30, "gSMALL LETTER IOTA WITH PSILIzeDASIAzePSILI AND VARIAzeDASIA AND VARIA"),
   (0x1F34, "zePSILI AND OXIAzeDASIA AND OXIAzePSILI AND PERISPOMENIzeDASIA AND PERISPOMENI"),
   (0x1F38, "gCAPITAL LETTER IOTA WITH PSILIzgDASIAzgPSILI AND VARIAzgDASIA AND VARIA"),
   (0x1F3C, "zgPSILI AND OXIAzgDASIA AND OXIAzgPSILI AND PERISPOMENIzgDASIA AND PERISPOMENI"),
   (0x1F40, "gSMALL LETTER OMICRON WITH PSILIzhDASIAzhPSILI AND VARIAzhDASIA AND VARIA"),
   (0x1F44, "zhPSILI AND OXIAzhDASIA AND OXIA"),
   (0x1F48, "gCAPITAL LETTER OMICRON WITH PSILIzjDASIAzjPSILI AND VARIAzjDASIA AND VARIA"),
   (0x1F4C, "zjPSILI AND OXIAzjDASIA AND OXIA"),
   (0x1F50, "gSMALL LETTER UPSILON WITH PSILIzhDASIAzhPSILI AND VARIAzhDASIA AND VARIA"),
   (0x1F54, "zhPSILI AND OXIAzhDASIA AND OXIAzhPSILI AND PERISPOMENIzhDASIA AND PERISPOMENI"),
   (0x1F59, "gCAPITAL LETTER UPSILON WITH DASIA"),
   (0x1F5B, "zo AND VARIA"),
   (0x1F5D, "ztOXIA"),
   (0x1F5F, "ztPERISPOMENIgSMALL LETTER OMEGA WITH PSILIzfDASIAzfPSILI AND VARIAzfDASIA AND VARIA"),
   (0x1F64, "zfPSILI AND OXIAzfDASIA AND OXIAzfPSILI AND PERISPOMENIzfDASIA AND PERISPOMENI"),
   (0x1F68, "gCAPITAL LETTER OMEGA WITH PSILIzhDASIAzhPSILI AND VARIAzhDASIA AND VARIA"),
   (0x1F6C, "zhPSILI AND OXIAzhDASIA AND OXIAzhPSILI AND PERISPOMENIzhDASIA AND PERISPOMENI"),
   (0x1F70, "gSMALL LETTER ALPHA WITH VARIAzfOXIAtEPSILON WITH VARIAzhOXIAuTA WITH VARIAzdOXIA"),
   (0x1F76, "tIOTA WITH VARIAzeOXIAtOMICRON WITH VARIAzhOXIAtUPSILON WITH VARIAzhOXIA"),
   (0x1F7C, "tOMEGA WITH VARIAzfOXIA"),
   (0x1F80, "tALPHA WITH PSILI AND YPOGEGRAMMENIzfDASIA AND YPOGEGRAMMENI"),
   (0x1F82, "zfPSILI AND VARIA AND YPOGEGRAMMENIzfDASIA AND VARIA AND YPOGEGRAMMENI"),
   (0x1F84, "zfPSILI AND OXIA AND YPOGEGRAMMENIzfDASIA AND OXIA AND YPOGEGRAMMENI"),
   (0x1F86, "zfPSILI AND PERISPOMENI AND YPOGEGRAMMENIzfDASIA AND PERISPOMENI AND YPOGEGRAMMENI"),
   (0x1F88, "gCAPITAL LETTER ALPHA WITH PSILI AND PROSGEGRAMMENIzhDASIA AND PROSGEGRAMMENI"),
   (0x1F8A, "zhPSILI AND VARIA AND PROSGEGRAMMENIzhDASIA AND VARIA AND PROSGEGRAMMENI"),
   (0x1F8C, "zhPSILI AND OXIA AND PROSGEGRAMMENIzhDASIA AND OXIA AND PROSGEGRAMMENI"),
   (0x1F8E, "zhPSILI AND PERISPOMENI AND PROSGEGRAMMENIzhDASIA AND PERISPOMENI AND PROSGEGRAMMENI"),
   (0x1F90, "gSMALL LETTER ETA WITH PSILI AND YPOGEGRAMMENIzdDASIA AND YPOGEGRAMMENI"),
   (0x1F92, "zdPSILI AND VARIA AND YPOGEGRAMMENIzdDASIA AND VARIA AND YPOGEGRAMMENI"),
   (0x1F94, "zdPSILI AND OXIA AND YPOGEGRAMMENIzdDASIA AND OXIA AND YPOGEGRAMMENI"),
   (0x1F96, "zdPSILI AND PERISPOMENI AND YPOGEGRAMMENIzdDASIA AND PERISPOMENI AND YPOGEGRAMMENI"),
   (0x1F98, "gCAPITAL LETTER ETA WITH PSILI AND PROSGEGRAMMENIzfDASIA AND PROSGEGRAMMENI"),
   (0x1F9A, "zfPSILI AND VARIA AND PROSGEGRAMMENIzfDASIA AND VARIA AND PROSGEGRAMMENI"),
   (0x1F9C, "zfPSILI AND OXIA AND PROSGEGRAMMENIzfDASIA AND OXIA AND PROSGEGRAMMENI"),
   (0x1F9E, "zfPSILI AND PERISPOMENI AND PROSGEGRAMMENIzfDASIA AND PERISPOMENI AND PROSGEGRAMMENI"),
   (0x1FA0, "gSMALL LETTER OMEGA WITH PSILI AND YPOGEGRAMMENIzfDASIA AND YPOGEGRAMMENI"),
   (0x1FA2, "zfPSILI AND VARIA AND YPOGEGRAMMENIzfDASIA AND VARIA AND YPOGEGRAMMENI"),
   (0x1FA4, "zfPSILI AND OXIA AND YPOGEGRAMMENIzfDASIA AND OXIA AND YPOGEGRAMMENI"),
   (0x1FA6, "zfPSILI AND PERISPOMENI AND YPOGEGRAMMENIzfDASIA AND PERISPOMENI AND YPOGEGRAMMENI"),
   (0x1FA8, "gCAPITAL LETTER OMEGA WITH PSILI AND PROSGEGRAMMENIzhDASIA AND PROSGEGRAMMENI"),
   (0x1FAA, "zhPSILI AND VARIA AND PROSGEGRAMMENIzhDASIA AND VARIA AND PROSGEGRAMMENI"),
   (0x1FAC, "zhPSILI AND OXIA AND PROSGEGRAMMENIzhDASIA AND OXIA AND PROSGEGRAMMENI"),
   (0x1FAE, "zhPSILI AND PERISPOMENI AND PROSGEGRAMMENIzhDASIA AND PERISPOMENI AND PROSGEGRAMMENI"),
   (0x1FB0, "gSMALL LETTER ALPHA WITH VRACHYzfMACRONzfVARIA AND YPOGEGRAMMENIzfYPOGEGRAMMENI"),
   (0x1FB4, "zfOXIA AND YPOGEGRAMMENI"),
   (0x1FB6, "zfPERISPOMENIzq AND YPOGEGRAMMENIgCAPITAL LETTER ALPHA WITH VRACHYzhMACRONzhVARIA"),
   (0x1FBB, "zhOXIAzhPROSGEGRAMMENIgKORONISgPROSGEGRAMMENIhSILIhERISPOMENI"),
   (0x1FC1, "gDIALYTIKA AND PERISPOMENIgSMALL LETTER ETA WITH VARIA AND YPOGEGRAMMENI"),
   (0x1FC3, "zdYPOGEGRAMMENIzdOXIA AND YPOGEGRAMMENI"),
   (0x1FC6, "zdPERISPOMENIzo AND YPOGEGRAMMENIgCAPITAL LETTER EPSILON WITH VARIAzjOXIA"),
   (0x1FCA, "wTA WITH VARIAzfOXIAzfPROSGEGRAMMENIgPSILI AND VARIAqOXIAqPERISPOMENI"),
   (0x1FD0, "gSMALL LETTER IOTA WITH VRACHYzeMACRONzeDIALYTIKA AND VARIAzsOXIA"),
   (0x1FD6, "zePERISPOMENIzeDIALYTIKA AND PERISPOMENIgCAPITAL LETTER IOTA WITH VRACHYzgMACRON"),
   (0x1FDA, "zgVARIAzgOXIA"),
   (0x1FDD, "gDASIA AND VARIAqOXIAqPERISPOMENIgSMALL LETTER UPSILON WITH VRACHYzhMACRON"),
   (0x1FE2, "zhDIALYTIKA AND VARIAzvOXIAtRHO WITH PSILIzdDASIAtUPSILON WITH PERISPOMENI"),
   (0x1FE7, "zhDIALYTIKA AND PERISPOMENIgCAPITAL LETTER UPSILON WITH VRACHYzjMACRONzjVARIAzjOXIA"),
   (0x1FEC, "vRHO WITH DASIAgDIALYTIKA AND VARIAuOXIAgVARIA"),
   (0x1FF2, "gSMALL LETTER OMEGA WITH VARIA AND YPOGEGRAMMENIzfYPOGEGRAMMENI"),
   (0x1FF4, "zfOXIA AND YPOGEGRAMMENI"),
   (0x1FF6, "zfPERISPOMENIzq AND YPOGEGRAMMENIgCAPITAL LETTER OMICRON WITH VARIAzjOXIA"),
   (0x1FFA, "xEGA WITH VARIAzhOXIAzhPROSGEGRAMMENIgOXIAgDASIA")]

end HtGate.Text.CharacterName
