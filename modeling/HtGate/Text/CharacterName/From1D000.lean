/-!
# Names of characters from U+1D000 to U+1EFFF

The names in the order of code points, as strings of names that follow one another from a code point on.
The small letters before a name say how many characters it has in common with the name before it, which
are left out.
-/

namespace HtGate.Text.CharacterName

/-- The names from U+1D000 to U+1EFFF. -/
def from1D000 : List (Nat × String) :=
  [(0x1D000, "aBYZANTINE MUSICAL SYMBOL PSILIzDASEIAzPERISPOMENIzOXEIA EKFONITIKONzgDIPLI"),
   (0x1D005, "zVAREIA EKFONITIKONzhDIPLIzKATHISTIzSYRMATIKIzPARAKLITIKIzYPOKRISISzj DIPLIzKREMASTI"),
   (0x1D00D, "zAPESO EKFONITIKONzEXO EKFONITIKONzTELEIAzKENTIMATAzAPOSTROFOSzk DIPLIzSYNEVMAzTHITA"),
   (0x1D015, "zOLIGON ARCHAIONzGORGON ARCHAIONzPSILONzCHAMILONzVATHYzISON ARCHAION"),
   (0x1D01B, "zKENTIMA ARCHAIONzhTA ARCHAIONzSAXIMATAzPARICHONzSTAVROS APODEXIAzOXEIAI ARCHAION"),
   (0x1D021, "zVAREIAI ARCHAIONzAPODERMA ARCHAIONzdTHEMAzKLASMAzREVMAzPIASMA ARCHAIONzTINAGMA"),
   (0x1D028, "zANATRICHISMAzSEISMAzbYNAGMA ARCHAIONziMETA STAVROUzOYRANISMA ARCHAIONzTHEMAzLEMOI"),
   (0x1D02F, "zDYOzTRIAzbESSERAzKRATIMATAzAPESO EXO NEOzFTHORA ARCHAIONzIMIFTHORA"),
   (0x1D036, "zTROMIKON ARCHAIONzKATAVA TROMIKONzPELASTONzbSIFISTONzKONTEVMAzCHOREVMA ARCHAION"),
   (0x1D03C, "zRAPISMAzPARAKALESMA ARCHAIONzfLITIKI ARCHAIONzICHADINzNANAzPETASMAzKONTEVMA ALLO"),
   (0x1D043, "zTROMIKON ALLOzSTRAGGISMATAzGRONTHISMATAzISON NEOzOLIGON NEOzbXEIA NEOzPETASTI"),
   (0x1D04A, "zKOUFISMAzPETASTOKOUFISMAzKRATIMOKOUFISMAzPELASTON NEOzKENTIMATA NEO ANOzh NEO ANO"),
   (0x1D050, "zYPSILIzAPOSTROFOS NEOzjI SYNDESMOS NEOzYPORROIzKRATIMOYPORROONzELAFRONzCHAMILI"),
   (0x1D057, "zMIKRON ISONzVAREIA NEOzPIASMA NEOzbSIFISTON NEOzOMALONzANTIKENOMAzLYGISMA"),
   (0x1D05E, "zPARAKLITIKI NEOzfALESMA NEOzETERON PARAKALESMAzKYLISMAzANTIKENOKYLISMAzTROMIKON NEO"),
   (0x1D064, "zEKSTREPTONzSYNAGMA NEOzcRMAzCHOREVMA NEOzEPEGERMAzSEISMA NEOzXIRON KLASMA"),
   (0x1D06B, "zTROMIKOPSIFISTONzPSIFISTOLYGISMAzTROMIKOLYGISMAzhPARAKALESMAzPSIFISTOPARAKALESMA"),
   (0x1D070, "zTROMIKOSYNAGMAzPSIFISTOSYNAGMAzGORGOSYNTHETONzARGOSYNTHETONzETERON ARGOSYNTHETON"),
   (0x1D075, "zOYRANISMA NEOzTHEMATISMOS ESOznXOzf APLOUNzdS KAI APOTHESzKATAVASMAzENDOFONON"),
   (0x1D07C, "zYFEN KATOzfANOzSTAVROSzKLASMA ANOzDIPLI ARCHAIONzKRATIMA ARCHAIONzjLLOziNEO"),
   (0x1D084, "zAPODERMA NEOzcLIzDIPLIzTRIPLIzbETRAPLIzKORONISzLEIMMA ENOS CHRONOUzhDYO CHRONON"),
   (0x1D08C, "zhTRION CHRONONziESSARON CHRONONzhIMISEOS CHRONOUzGORGON NEO ANO"),
   (0x1D090, "zhPARESTIGMENON ARISTERAzvDEXIAzDIGORGONzi PARESTIGMENON ARISTERA KATOzzhANOzxDEXIA"),
   (0x1D096, "zTRIGORGONzARGONzIMIDIARGONzDIARGONzAGOGI POLI ARGIzgARGOTERIzjIzgMETRIAziSIzgGORGI"),
   (0x1D0A0, "zkOTERIzgPOLI GORGIzMARTYRIA PROTOS ICHOSzjALLI PROTOS ICHOSzjDEYTEROS ICHOS"),
   (0x1D0A5, "zjALLI DEYTEROS ICHOSzjTRITOS ICHOSzmFONIASzkETARTOS ICHOSzsLEGETOS ICHOS"),
   (0x1D0AA, "zjLEGETOS ICHOSzjPLAGIOS ICHOSzISAKIA TELOUS ICHIMATOSzAPOSTROFOI TELOUS ICHIMATOS"),
   (0x1D0AE, "zFANEROSIS TETRAFONIASzkMONOFONIASzkDIFONIASzMARTYRIA VARYS ICHOSzjPROTOVARYS ICHOS"),
   (0x1D0B3, "zkLAGIOS TETARTOS ICHOSzGORTHMIKON N APLOUNznDIPLOUNzENARXIS KAI FTHORA VOUzIMIFONON"),
   (0x1D0B8, "zeTHORONzFTHORA ARCHAION DEYTEROU ICHOUzhDIATONIKI PAzrNANAzhNAOS ICHOS"),
   (0x1D0BD, "zhDIATONIKI DIzhSKLIRON DIATONON DIzhDIATONIKI KEzrZOzrNI KATOzuANO"),
   (0x1D0C3, "zhMALAKON CHROMA DIFONIASzwMONOFONIASzbHTORA SKLIRON CHROMA VASIS"),
   (0x1D0C6, "zbTHORA SKLIRON CHROMA SYNAFIzhNENANOzCHROA ZYGOSzgKLITONzgSPATHI"),
   (0x1D0CB, "zFTHORA I YFESIS TETARTIMORIONzhENARMONIOS ANTIFONIAzYFESIS TRITIMORION"),
   (0x1D0CE, "zDIESIS TRITIMORIONziETARTIMORIONzhAPLI DYO DODEKATAzhMONOGRAMMOS TESSERA DODEKATA"),
   (0x1D0D2, "zhDIGRAMMOS EX DODEKATAzhTRIGRAMMOS OKTO DODEKATAzYFESIS APLI DYO DODEKATA"),
   (0x1D0D5, "zhMONOGRAMMOS TESSERA DODEKATAzhDIGRAMMOS EX DODEKATAzhTRIGRAMMOS OKTO DODEKATA"),
   (0x1D0D8, "zGENIKI DIESISzhYFESISzDIASTOLI APLI MIKRIzpEGALIzjDIPLIzjTHESEOSzSIMANSIS THESEOS"),
   (0x1D0DF, "zq DISIMOUzrTRISIMOUzsETRASIMOUzjARSEOSzp DISIMOUzqTRISIMOUzrETRASIMOUzDIGRAMMA GG"),
   (0x1D0E7, "zcFTOGGOS OUzSTIGMAzARKTIKO PAziVOUziGAziDIziKEziZOziNIzKENTIMATA NEO MESO"),
   (0x1D0F1, "zh NEO MESOzhTA NEO KATOzh NEO KATOzbLASMA KATOzGORGON NEO KATO"),
   (0x1D100, "aMUSICAL SYMBOL SINGLE BARLINEpDOUBLE BARLINEpFINAL BARLINEpREVERSE FINAL BARLINE"),
   (0x1D104, "pDASHED BARLINEpSHORT BARLINEpLEFT REPEAT SIGNpRIGHT REPEAT SIGNqEPEAT DOTS"),
   (0x1D109, "pDAL SEGNOr CAPOpSEGNOpCODApREPEATED FIGURE-1zg2zg3pFERMATAw BELOWpBREATH MARK"),
   (0x1D113, "pCAESURApBRACEtKETpONE-LINE STAFFpTWO-LINE STAFFqHREE-LINE STAFFpFOUR-LINE STAFF"),
   (0x1D11A, "qIVE-LINE STAFFpSIX-LINE STAFFtSTRING FRETBOARDpFOUR-STRING FRETBOARDpG CLEF"),
   (0x1D11F, "v OTTAVA ALTAzeBASSApC CLEFpF CLEFv OTTAVA ALTAzeBASSApDRUM CLEF-1z2"),
   (0x1D129, "pMULTIPLE MEASURE RESTpDOUBLE SHARPwFLATpFLAT UPuDOWNpNATURAL UPxDOWNpSHARP UPvDOWN"),
   (0x1D132, "pQUARTER TONE SHARPzdFLATpCOMMON TIMEqUT TIMEpOTTAVA ALTAwBASSApQUINDICESIMA ALTA"),
   (0x1D139, "zdBASSApMULTI RESTpWHOLE RESTpHALF RESTpQUARTER RESTpEIGHTH RESTpSIXTEENTH REST"),
   (0x1D140, "pTHIRTY-SECOND RESTpSIXTY-FOURTH RESTpONE HUNDRED TWENTY-EIGHTH RESTpX NOTEHEAD"),
   (0x1D144, "pPLUS NOTEHEADpCIRCLE X NOTEHEADpSQUARE NOTEHEAD WHITEzgBLACK"),
   (0x1D148, "pTRIANGLE NOTEHEAD UP WHITEzlBLACKziLEFT WHITEznBLACKziRIGHT WHITEzoBLACK"),
   (0x1D14E, "ziDOWN WHITEznBLACKziUP RIGHT WHITEzrBLACKpMOON NOTEHEAD WHITEzeBLACK"),
   (0x1D154, "pTRIANGLE-ROUND NOTEHEAD DOWN WHITEztBLACKpPARENTHESIS NOTEHEADpVOID NOTEHEAD"),
   (0x1D158, "pNOTEHEAD BLACKqULL NOTEHEADpCLUSTER NOTEHEAD WHITEzhBLACKpBREVEpWHOLE NOTE"),
   (0x1D15E, "pHALF NOTEpQUARTER NOTEpEIGHTH NOTEpSIXTEENTH NOTEpTHIRTY-SECOND NOTE"),
   (0x1D163, "pSIXTY-FOURTH NOTEpONE HUNDRED TWENTY-EIGHTH NOTEpCOMBINING STEMzbPRECHGESANG STEM"),
   (0x1D167, "zTREMOLO-1zi2zi3pFINGERED TREMOLO-1zh2zh3pCOMBINING AUGMENTATION DOTzFLAG-1zf2zf3zf4"),
   (0x1D172, "zf5pBEGIN BEAMpEND BEAMpBEGIN TIEpEND TIEpBEGIN SLURpEND SLURpBEGIN PHRASE"),
   (0x1D17A, "pEND PHRASEpCOMBINING ACCENTzSTACCATOzTENUTOzSTACCATISSIMOzMARCATOzh-STACCATO"),
   (0x1D181, "zACCENT-STACCATOzLOUREpARPEGGIATO UPzbDOWNpCOMBINING DOITzRIPzFLIPzSMEARzBEND"),
   (0x1D18A, "zDOUBLE TONGUEzTRIPLE TONGUEpRINFORZANDOpSUBITOpZpPIANOpMEZZOpFORTEpCRESCENDO"),
   (0x1D193, "pDECRESCENDOpGRACE NOTE SLASHzbNO SLASHpTRqURNpINVERTED TURNpTURN SLASHuUP"),
   (0x1D19B, "pORNAMENT STROKE-1zg2zg3zg4zg5zg6zg7zg8zg9zg10zh1pHAUPTSTIMMEpNEBENSTIMME"),
   (0x1D1A8, "pEND OF STIMMEpDEGREE SLASHpCOMBINING DOWN BOWzUP BOWzHARMONICzSNAP PIZZICATO"),
   (0x1D1AE, "pPEDAL MARKvUP MARKpHALF PEDAL MARKpGLISSANDO UPzDOWNpWITH FINGERNAILSpDAMPt ALL"),
   (0x1D1B6, "pMAXIMApLONGApBREVISpSEMIBREVIS WHITEzbBLACKpMINIMAv BLACKpSEMIMINIMA WHITEzbBLACK"),
   (0x1D1BF, "pFUSA WHITEuBLACKpLONGA PERFECTA RESTvIMPERFECTA RESTpBREVIS RESTpSEMIBREVIS REST"),
   (0x1D1C5, "pMINIMA RESTpSEMIMINIMA RESTpTEMPUS PERFECTUM CUM PROLATIONE PERFECTAzwIMPERFECTA"),
   (0x1D1C9, "zwPERFECTA DIMINUTION-1wIMPERFECTUM CUM PROLATIONE PERFECTAzyIMPERFECTA"),
   (0x1D1CC, "zzj DIMINUTION-1zzv2zzv3pCROIXpGREGORIAN C CLEFzF CLEFpSQUARE BpVIRGApPODATUSpCLIVIS"),
   (0x1D1D6, "pSCANDICUSpCLIMACUSpTORCULUSpPORRECTUSy FLEXUSpSCANDICUS FLEXUSpTORCULUS RESUPINUS"),
   (0x1D1DD, "pPES SUBPUNCTISpKIEVAN C CLEFwEND OF PIECEwFINAL NOTEwRECITATIVE MARKwWHOLE NOTE"),
   (0x1D1E3, "wHALF NOTEwQUARTER NOTE STEM DOWNzpUPwEIGHTH NOTE STEM DOWNzoUPwFLAT SIGNpSORIpKORON"),
   (0x1D200, "aGREEK VOCAL NOTATION SYMBOL-1zd2zd3zd4zd5zd6zd7zd8zd9zd10ze1ze2ze3ze4ze5ze6ze7ze8"),
   (0x1D212, "ze9zd20ze1ze2ze3ze4zd50ze1ze2ze3ze4gINSTRUMENTAL NOTATION SYMBOL-1zk2zk4zk5zk7zk8"),
   (0x1D223, "zk11zl2zl3zl4zl7zl8zl9zk23zl4zl5zl6zl7zl9zk30zl2zl6zl7zl8zl9zk40zl2zl3zl5zl7zl8zl9"),
   (0x1D23D, "zk50zl1zl2zl3zl4aCOMBINING GREEK MUSICAL TRISEMEzETRASEMEyPENTASEME"),
   (0x1D245, "aGREEK MUSICAL LEIMMA"),
   (0x1D2E0, "aMAYAN NUMERAL ZEROoONEoTWOpHREEoFOURpIVEoSIXpEVENoEIGHToNINEoTENoELEVENoTWELVE"),
   (0x1D2ED, "pHIRTEENoFOURTEENpIFTEENoSIXTEENpEVENTEENoEIGHTEENoNINETEEN"),
   (0x1D300, "bONOGRAM FOR EARTHaDIGRAM FOR HEAVENLY EARTHmUMAN EARTHlEARTHLY HEAVENuUMANpH"),
   (0x1D306, "aTETRAGRAM FOR CENTREoFULL CIRCLEoMIREDoBARRIERoKEEPING SMALLoCONTRARIETYoASCENT"),
   (0x1D30D, "oOPPOSITIONoBRANCHING OUToDEFECTIVENESS OR DISTORTIONpIVERGENCEoYOUTHFULNESS"),
   (0x1D312, "oINCREASEoPENETRATIONoREACHoCONTACToHOLDING BACKoWAITINGoFOLLOWINGoADVANCEoRELEASE"),
   (0x1D31B, "qSISTANCEoEASEoJOYoCONTENTIONoENDEAVOURoDUTIESoCHANGEoDECISIVENESSoBOLD RESOLUTION"),
   (0x1D324, "oPACKINGoLEGIONoCLOSENESSoKINSHIPoGATHERINGoSTRENGTHoPURITYoFULLNESSoRESIDENCE"),
   (0x1D32D, "oLAW OR MODELoRESPONSEoGOING TO MEEToENCOUNTERSoSTOVEoGREATNESSoENLARGEMENToPATTERN"),
   (0x1D335, "oRITUALoFLIGHToVASTNESS OR WASTINGoCONSTANCYoMEASUREoETERNITYoUNITYoDIMINISHMENT"),
   (0x1D33D, "oCLOSED MOUTHoGUARDEDNESSpATHERING INoMASSINGoACCUMULATIONoEMBELLISHMENToDOUBToWATCH"),
   (0x1D345, "oSINKINGoINNERoDEPARTUREpARKENINGpIMMINGoEXHAUSTIONoSEVERANCEpTOPPAGEoHARDNESS"),
   (0x1D34E, "oCOMPLETIONpLOSUREoFAILUREoAGGRAVATIONoCOMPLIANCEoON THE VERGEoDIFFICULTIES"),
   (0x1D355, "oLABOURINGoFOSTERING"),
   (0x1D360, "aCOUNTING ROD UNIT DIGIT ONEyTWOzHREEyFOURzIVEySIXzEVENyEIGHTyNINEnTENS DIGIT ONE"),
   (0x1D36A, "yTWOzHREEyFOURzIVEySIXzEVENyEIGHTyNINEaIDEOGRAPHIC TALLY MARK ONExTWOyHREExFOURyIVE"),
   (0x1D377, "aTALLY MARK ONElFIVE"),
   (0x1D400, "aMATHEMATICAL BOLD CAPITAL AzbBzbCzbDzbEzbFzbGzbHzbIzbJzbKzbLzbMzbNzbOzbPzbQzbRzbS"),
   (0x1D413, "zbTzbUzbVzbWzbXzbYzbZsSMALL AyByCyDyEyFyGyHyIyJyKyLyMyNyOyPyQyRySyTyUyVyWyXyYyZ"),
   (0x1D434, "nITALIC CAPITAL AzdBzdCzdDzdEzdFzdGzdHzdIzdJzdKzdLzdMzdNzdOzdPzdQzdRzdSzdTzdUzdVzdW"),
   (0x1D44B, "zdXzdYzdZuSMALL AzbBzbCzbDzbEzbFzbG"),
   (0x1D456, "zbIzbJzbKzbLzbMzbNzbOzbPzbQzbRzbSzbTzbUzbVzbWzbXzbYzbZnBOLD ITALIC CAPITAL AziBziC"),
   (0x1D46B, "ziDziEziFziGziHziIziJziKziLziMziNziOziPziQziRziSziTziUziVziWziXziYziZzSMALL AzgBzgC"),
   (0x1D485, "zgDzgEzgFzgGzgHzgIzgJzgKzgLzgMzgNzgOzgPzgQzgRzgSzgTzgUzgVzgWzgXzgYzgZ"),
   (0x1D49C, "nSCRIPT CAPITAL A"),
   (0x1D49E, "zdCzdD"),
   (0x1D4A2, "zdG"),
   (0x1D4A5, "zdJzdK"),
   (0x1D4A9, "zdNzdOzdPzdQ"),
   (0x1D4AE, "zdSzdTzdUzdVzdWzdXzdYzdZuSMALL AzbBzbCzbD"),
   (0x1D4BB, "zbF"),
   (0x1D4BD, "zbHzbIzbJzbKzbLzbMzbN"),
   (0x1D4C5, "zbPzbQzbRzbSzbTzbUzbVzbWzbXzbYzbZnBOLD SCRIPT CAPITAL AziBziCziDziEziFziGziHziIziJ"),
   (0x1D4DA, "ziKziLziMziNziOziPziQziRziSziTziUziVziWziXziYziZzSMALL AzgBzgCzgDzgEzgFzgGzgHzgIzgJ"),
   (0x1D4F4, "zgKzgLzgMzgNzgOzgPzgQzgRzgSzgTzgUzgVzgWzgXzgYzgZnFRAKTUR CAPITAL AzeB"),
   (0x1D507, "zeDzeEzeFzeG"),
   (0x1D50D, "zeJzeKzeLzeMzeNzeOzePzeQ"),
   (0x1D516, "zeSzeTzeUzeVzeWzeXzeY"),
   (0x1D51E, "vSMALL AzcBzcCzcDzcEzcFzcGzcHzcIzcJzcKzcLzcMzcNzcOzcPzcQzcRzcSzcTzcUzcVzcWzcXzcYzcZ"),
   (0x1D538, "nDOUBLE-STRUCK CAPITAL AzkB"),
   (0x1D53B, "zkDzkEzkFzkG"),
   (0x1D540, "zkIzkJzkKzkLzkM"),
   (0x1D546, "zkO"),
   (0x1D54A, "zkSzkTzkUzkVzkWzkXzkY"),
   (0x1D552, "zcSMALL AziBziCziDziEziFziGziHziIziJziKziLziMziNziOziPziQziRziSziTziUziVziWziXziYziZ"),
   (0x1D56C, "nBOLD FRAKTUR CAPITAL AzjBzjCzjDzjEzjFzjGzjHzjIzjJzjKzjLzjMzjNzjOzjPzjQzjRzjSzjTzjU"),
   (0x1D581, "zjVzjWzjXzjYzjZzbSMALL AzhBzhCzhDzhEzhFzhGzhHzhIzhJzhKzhLzhMzhNzhOzhPzhQzhRzhSzhTzhU"),
   (0x1D59B, "zhVzhWzhXzhYzhZnSANS-SERIF CAPITAL AzhBzhCzhDzhEzhFzhGzhHzhIzhJzhKzhLzhMzhNzhOzhPzhQ"),
   (0x1D5B1, "zhRzhSzhTzhUzhVzhWzhXzhYzhZySMALL AzfBzfCzfDzfEzfFzfGzfHzfIzfJzfKzfLzfMzfNzfOzfPzfQ"),
   (0x1D5CB, "zfRzfSzfTzfUzfVzfWzfXzfYzfZyBOLD CAPITAL AzmBzmCzmDzmEzmFzmGzmHzmIzmJzmKzmLzmMzmNzmO"),
   (0x1D5E3, "zmPzmQzmRzmSzmTzmUzmVzmWzmXzmYzmZzeSMALL AzkBzkCzkDzkEzkFzkGzkHzkIzkJzkKzkLzkMzkNzkO"),
   (0x1D5FD, "zkPzkQzkRzkSzkTzkUzkVzkWzkXzkYzkZyITALIC CAPITAL AzoBzoCzoDzoEzoFzoGzoHzoIzoJzoKzoL"),
   (0x1D614, "zoMzoNzoOzoPzoQzoRzoSzoTzoUzoVzoWzoXzoYzoZzgSMALL AzmBzmCzmDzmEzmFzmGzmHzmIzmJzmKzmL"),
   (0x1D62E, "zmMzmNzmOzmPzmQzmRzmSzmTzmUzmVzmWzmXzmYzmZyBOLD ITALIC CAPITAL AztBztCztDztEztFztG"),
   (0x1D643, "ztHztIztJztKztLztMztNztOztPztQztRztSztTztUztVztWztXztYztZzlSMALL AzrBzrCzrDzrEzrFzrG"),
   (0x1D65D, "zrHzrIzrJzrKzrLzrMzrNzrOzrPzrQzrRzrSzrTzrUzrVzrWzrXzrYzrZnMONOSPACE CAPITAL AzgBzgC"),
   (0x1D673, "zgDzgEzgFzgGzgHzgIzgJzgKzgLzgMzgNzgOzgPzgQzgRzgSzgTzgUzgVzgWzgXzgYzgZxSMALL AzeBzeC"),
   (0x1D68D, "zeDzeEzeFzeGzeHzeIzeJzeKzeLzeMzeNzeOzePzeQzeRzeSzeTzeUzeVzeWzeXzeYzeZ"),
   (0x1D6A4, "nITALIC SMALL DOTLESS IzjJ"),
   (0x1D6A8, "nBOLD CAPITAL ALPHAzbBETAzbGAMMAzbDELTAzbEPSILONzbZETAzbETAzbTHETAzbIOTAzbKAPPA"),
   (0x1D6B2, "zbLAMDAzbMUzbNUzbXIzbOMICRONzbPIzbRHOzbTHETA SYMBOLzbSIGMAzbTAUzbUPSILONzbPHIzbCHI"),
   (0x1D6BF, "zbPSIzbOMEGAsNABLAsSMALL ALPHAyBETAyGAMMAyDELTAyEPSILONyZETAyETAyTHETAyIOTAyKAPPA"),
   (0x1D6CC, "yLAMDAyMUyNUyXIyOMICRONyPIyRHOyFINAL SIGMAySIGMAyTAUyUPSILONyPHIyCHIyPSIyOMEGA"),
   (0x1D6DB, "sPARTIAL DIFFERENTIALsEPSILON SYMBOLsTHETA SYMBOLsKAPPA SYMBOLsPHI SYMBOLsRHO SYMBOL"),
   (0x1D6E1, "sPI SYMBOLnITALIC CAPITAL ALPHAzdBETAzdGAMMAzdDELTAzdEPSILONzdZETAzdETAzdTHETAzdIOTA"),
   (0x1D6EB, "zdKAPPAzdLAMDAzdMUzdNUzdXIzdOMICRONzdPIzdRHOzdTHETA SYMBOLzdSIGMAzdTAUzdUPSILONzdPHI"),
   (0x1D6F8, "zdCHIzdPSIzdOMEGAuNABLAuSMALL ALPHAzbBETAzbGAMMAzbDELTAzbEPSILONzbZETAzbETAzbTHETA"),
   (0x1D704, "zbIOTAzbKAPPAzbLAMDAzbMUzbNUzbXIzbOMICRONzbPIzbRHOzbFINAL SIGMAzbSIGMAzbTAUzbUPSILON"),
   (0x1D711, "zbPHIzbCHIzbPSIzbOMEGAuPARTIAL DIFFERENTIALuEPSILON SYMBOLuTHETA SYMBOLuKAPPA SYMBOL"),
   (0x1D719, "uPHI SYMBOLuRHO SYMBOLuPI SYMBOLnBOLD ITALIC CAPITAL ALPHAziBETAziGAMMAziDELTA"),
   (0x1D720, "ziEPSILONziZETAziETAziTHETAziIOTAziKAPPAziLAMDAziMUziNUziXIziOMICRONziPIziRHO"),
   (0x1D72D, "ziTHETA SYMBOLziSIGMAziTAUziUPSILONziPHIziCHIziPSIziOMEGAzNABLAzSMALL ALPHAzgBETA"),
   (0x1D738, "zgGAMMAzgDELTAzgEPSILONzgZETAzgETAzgTHETAzgIOTAzgKAPPAzgLAMDAzgMUzgNUzgXIzgOMICRON"),
   (0x1D745, "zgPIzgRHOzgFINAL SIGMAzgSIGMAzgTAUzgUPSILONzgPHIzgCHIzgPSIzgOMEGA"),
   (0x1D74F, "zPARTIAL DIFFERENTIALzEPSILON SYMBOLzTHETA SYMBOLzKAPPA SYMBOLzPHI SYMBOLzRHO SYMBOL"),
   (0x1D755, "zPI SYMBOLnSANS-SERIF BOLD CAPITAL ALPHAzmBETAzmGAMMAzmDELTAzmEPSILONzmZETAzmETA"),
   (0x1D75D, "zmTHETAzmIOTAzmKAPPAzmLAMDAzmMUzmNUzmXIzmOMICRONzmPIzmRHOzmTHETA SYMBOLzmSIGMAzmTAU"),
   (0x1D76A, "zmUPSILONzmPHIzmCHIzmPSIzmOMEGAzeNABLAzeSMALL ALPHAzkBETAzkGAMMAzkDELTAzkEPSILON"),
   (0x1D775, "zkZETAzkETAzkTHETAzkIOTAzkKAPPAzkLAMDAzkMUzkNUzkXIzkOMICRONzkPIzkRHOzkFINAL SIGMA"),
   (0x1D782, "zkSIGMAzkTAUzkUPSILONzkPHIzkCHIzkPSIzkOMEGAzePARTIAL DIFFERENTIALzeEPSILON SYMBOL"),
   (0x1D78B, "zeTHETA SYMBOLzeKAPPA SYMBOLzePHI SYMBOLzeRHO SYMBOLzePI SYMBOL"),
   (0x1D790, "zeITALIC CAPITAL ALPHAztBETAztGAMMAztDELTAztEPSILONztZETAztETAztTHETAztIOTAztKAPPA"),
   (0x1D79A, "ztLAMDAztMUztNUztXIztOMICRONztPIztRHOztTHETA SYMBOLztSIGMAztTAUztUPSILONztPHIztCHI"),
   (0x1D7A7, "ztPSIztOMEGAzlNABLAzlSMALL ALPHAzrBETAzrGAMMAzrDELTAzrEPSILONzrZETAzrETAzrTHETA"),
   (0x1D7B2, "zrIOTAzrKAPPAzrLAMDAzrMUzrNUzrXIzrOMICRONzrPIzrRHOzrFINAL SIGMAzrSIGMAzrTAUzrUPSILON"),
   (0x1D7BF, "zrPHIzrCHIzrPSIzrOMEGAzlPARTIAL DIFFERENTIALzlEPSILON SYMBOLzlTHETA SYMBOL"),
   (0x1D7C6, "zlKAPPA SYMBOLzlPHI SYMBOLzlRHO SYMBOLzlPI SYMBOLnBOLD CAPITAL DIGAMMAsSMALL DIGAMMA"),
   (0x1D7CE, "sDIGIT ZEROyONEyTWOzHREEyFOURzIVEySIXzEVENyEIGHTyNINEnDOUBLE-STRUCK DIGIT ZEROziONE"),
   (0x1D7DA, "ziTWOzjHREEziFOURzjIVEziSIXzjEVENziEIGHTziNINEnSANS-SERIF DIGIT ZEROzfONEzfTWOzgHREE"),
   (0x1D7E6, "zfFOURzgIVEzfSIXzgEVENzfEIGHTzfNINEyBOLD DIGIT ZEROzkONEzkTWOzlHREEzkFOURzlIVEzkSIX"),
   (0x1D7F3, "zlEVENzkEIGHTzkNINEnMONOSPACE DIGIT ZEROzeONEzeTWOzfHREEzeFOURzfIVEzeSIXzfEVEN"),
   (0x1D7FE, "zeEIGHTzeNINEaSIGNWRITING HAND-FIST INDEXrCIRCLE INDEXsUP INDEXrOVAL INDEX"),
   (0x1D804, "rHINGE INDEXrANGLE INDEXrFIST INDEX BENTrCIRCLE INDEX BENT"),
   (0x1D808, "rFIST THUMB UNDER INDEX BENTwINDEX RAISED KNUCKLEzdCUPPEDzdHINGEDzj LOW"),
   (0x1D80D, "rCIRCLE INDEX HINGErFIST INDEX MIDDLErCIRCLE INDEX MIDDLErFIST INDEX MIDDLE BENT"),
   (0x1D811, "zkRAISED KNUCKLESzkHINGEDzdUP MIDDLE HINGEDzdHINGED MIDDLE UPzdMIDDLE CONJOINED"),
   (0x1D816, "zt INDEX BENTzuMIDDLE BENTzuCUPPEDzuHINGEDzlROSSEDrCIRCLE INDEX MIDDLE CROSSED"),
   (0x1D81C, "rFIST MIDDLE BENT OVER INDEXwINDEX BENT OVER MIDDLEzdMIDDLE THUMB"),
   (0x1D81F, "rCIRCLE INDEX MIDDLE THUMBrFIST INDEX MIDDLE STRAIGHT THUMB BENT"),
   (0x1D821, "zkBENT THUMB STRAIGHTzkTHUMB BENTzkHINGED SPREAD THUMB SIDE"),
   (0x1D824, "zdUP MIDDLE HINGED THUMB SIDEzzbCONJOINEDzdHINGED MIDDLE UP THUMB SIDE"),
   (0x1D827, "zdMIDDLE UP SPREAD THUMB FORWARDzkTHUMB CUPPEDzrIRCLEDzqHOOKEDzrINGED"),
   (0x1D82C, "wTHUMB BETWEEN INDEX MIDDLE STRAIGHTwINDEX MIDDLE CONJOINED THUMB SIDEzzf CONJOINED"),
   (0x1D82F, "zzgBENTwMIDDLE THUMB HOOKED INDEX UPwINDEX THUMB HOOKED MIDDLE UP"),
   (0x1D832, "zdMIDDLE CONJOINED HINGED THUMB SIDEzlROSSED THUMB SIDEzlONJOINED THUMB FORWARD"),
   (0x1D835, "zuCUPPED THUMB FORWARDwMIDDLE THUMB CUPPED INDEX UPwINDEX THUMB CUPPED MIDDLE UP"),
   (0x1D838, "wMIDDLE THUMB CIRCLED INDEX UPzyHINGEDwINDEX THUMB ANGLED OUT MIDDLE UP"),
   (0x1D83B, "zqIN MIDDLE UPzjCIRCLED MIDDLE UPzdMIDDLE THUMB CONJOINED HINGEDzqANGLED OUTzvD"),
   (0x1D840, "wMIDDLE THUMB ANGLED OUT INDEX UPzzcCROSSEDzrINDEX UP"),
   (0x1D843, "wINDEX THUMB HOOKED MIDDLE HINGEDsLAT FOUR FINGERSzj BENTzkHINGEDzkCONJOINEDzt SPLIT"),
   (0x1D849, "rCLAW FOUR FINGERS CONJOINEDrFIST FOUR FINGERS CONJOINED BENT"),
   (0x1D84B, "rHINGE FOUR FINGERS CONJOINEDrFLAT FIVE FINGERS SPREADwHEEL FIVE FINGERS SPREAD"),
   (0x1D84E, "wFIVE FINGERS SPREAD FOUR BENTwHEEL FIVE FINGERS SPREAD FOUR BENT"),
   (0x1D850, "wFIVE FINGERS SPREAD BENTwHEEL FIVE FINGERS SPREAD BENT"),
   (0x1D852, "wFIVE FINGERS SPREAD THUMB FORWARDrCUP FIVE FINGERS SPREADzp OPEN"),
   (0x1D855, "rHINGE FIVE FINGERS SPREAD OPENrOVAL FIVE FINGERS SPREAD"),
   (0x1D857, "rFLAT FIVE FINGERS SPREAD HINGEDzx THUMB SIDEzyNO THUMBuTv BETWEEN PALM FACINGSwHEEL"),
   (0x1D85D, "wTHUMB SIDEwHEEL THUMB SIDEwTHUMB BENTzdFORWARDwSPLIT INDEX THUMB SIDEzdCENTRE"),
   (0x1D863, "zj THUMB SIDEzu BENTzdLITTLErCLAWv THUMB SIDEwNO THUMBwTHUMB FORWARDrHOOK CURLICUEuK"),
   (0x1D86C, "rCUP OPENtPu OPEN THUMB SIDEvTHUMB SIDEvOPEN NO THUMBvNO THUMBvOPEN THUMB FORWARD"),
   (0x1D873, "vTHUMB FORWARDtRLICUE OPENyEsIRCLErOVALv THUMB SIDEwNO THUMBwTHUMB FORWARD"),
   (0x1D87B, "rHINGE OPENzc THUMB FORWARDvEw SMALLxOPEN THUMB SIDExTHUMB SIDExOPEN NO THUMB"),
   (0x1D882, "xNO THUMBxTHUMB SIDE TOUCHING INDEXzeBETWEEN MIDDLE RINGrANGLE"),
   (0x1D886, "rFIST INDEX MIDDLE RINGrCIRCLE INDEX MIDDLE RINGrHINGE INDEX MIDDLE RING"),
   (0x1D889, "rANGLE INDEX MIDDLE RINGrHINGE LITTLErFIST INDEX MIDDLE RING BENTzpCONJOINED"),
   (0x1D88D, "rHINGE INDEX MIDDLE RING CONJOINEDrFIST LITTLE DOWNzi RIPPLE STRAIGHTzqCURVED"),
   (0x1D891, "zjOTHERS CIRCLEDzeUPwTHUMB UNDER LITTLE UPrCIRCLE LITTLE UPrOVAL LITTLE UP"),
   (0x1D896, "rANGLE LITTLE UPrFIST LITTLE RAISED KNUCKLEzeBENTzeTOUCHES THUMBzfHUMB"),
   (0x1D89B, "rHINGE LITTLE THUMBrFIST LITTLE INDEX THUMBrHINGE LITTLE INDEX THUMB"),
   (0x1D89E, "rANGLE LITTLE INDEX THUMB INDEX THUMB OUTzzcBrFIST LITTLE INDEXrCIRCLE LITTLE INDEX"),
   (0x1D8A2, "rHINGE LITTLE INDEXrANGLE LITTLE INDEXrFIST INDEX MIDDLE LITTLE"),
   (0x1D8A5, "rCIRCLE INDEX MIDDLE LITTLErHINGE INDEX MIDDLE LITTLExRINGrANGLE INDEX MIDDLE LITTLE"),
   (0x1D8A9, "rFIST INDEX MIDDLE CROSS LITTLErCIRCLE INDEX MIDDLE CROSS LITTLErFIST RING DOWN"),
   (0x1D8AC, "rHINGE RING DOWN INDEX THUMB HOOK MIDDLErANGLE RING DOWN MIDDLE THUMB INDEX CROSS"),
   (0x1D8AE, "rFIST RING UPzcRAISED KNUCKLEzcLITTLErCIRCLE RING LITTLErOVAL RING LITTLE"),
   (0x1D8B3, "rANGLE RING LITTLErFIST RING MIDDLEzi CONJOINEDzjRAISED KNUCKLESzcINDEXzcTHUMB"),
   (0x1D8B9, "rHOOK RING THUMBrFIST INDEX RING LITTLErCIRCLE INDEX RING LITTLE"),
   (0x1D8BC, "sURLICUE INDEX RING LITTLE ONrHOOK INDEX RING LITTLE OUTzpINzpUNDER"),
   (0x1D8C0, "rCUP INDEX RING LITTLErHINGE INDEX RING LITTLErANGLE INDEX RING LITTLE OUTzoE"),
   (0x1D8C4, "rFIST MIDDLE DOWNrHINGE MIDDLErFIST MIDDLE UPrCIRCLE MIDDLE UP"),
   (0x1D8C8, "rFIST MIDDLE RAISED KNUCKLEzeUP THUMB SIDErHOOK MIDDLE THUMB"),
   (0x1D8CB, "rFIST MIDDLE THUMB LITTLEzeLITTLEzeRING LITTLErCIRCLE MIDDLE RING LITTLE"),
   (0x1D8CF, "sURLICUE MIDDLE RING LITTLE ONtP MIDDLE RING LITTLErHINGE MIDDLE RING LITTLE"),
   (0x1D8D2, "rANGLE MIDDLE RING LITTLE OUTzrINzpErCIRCLE MIDDLE RING LITTLE BENT"),
   (0x1D8D6, "sLAW MIDDLE RING LITTLE CONJOINEDzz SIDErHOOK MIDDLE RING LITTLE CONJOINED OUTzzbIN"),
   (0x1D8DA, "zyDsINGE INDEX HINGEDrFIST INDEX THUMB SIDErHINGE INDEX THUMB SIDE"),
   (0x1D8DE, "rFIST INDEX THUMB SIDE THUMB DIAGONALzuCONJOINEDzuBENTzoINDEX BENTzoBOTH BENT"),
   (0x1D8E3, "zoINDEX HINGEzjFORWARD INDEX STRAIGHTzxBENTzjHOOKzjCURLICUEzmVE THUMB INSIDE"),
   (0x1D8E9, "rCLAW INDEX THUMB CURVE THUMB INSIDErFIST INDEX THUMB CURVE THUMB UNDERzkIRCLE"),
   (0x1D8EC, "rCUP INDEX THUMBzh OPENrHINGE INDEX THUMB OPENzkLARGEziBzj SMALL"),
   (0x1D8F2, "rANGLE INDEX THUMB OUTzkINziBrFIST THUMBzc HEELzdSIDE DIAGONALziCONJOINEDziBENT"),
   (0x1D8FA, "zdFORWARDzdBETWEEN INDEX MIDDLEzlMIDDLE RINGzlRING LITTLEzdUNDER TWO FINGERS"),
   (0x1D8FF, "zdOVER TWO FINGERSzdUNDER THREE FINGERSzjFOUR FINGERSzdOVER FOUR RAISED KNUCKLESuT"),
   (0x1D904, "v HEELmTOUCH SINGLEsMULTIPLEsBETWEENmGRASP SINGLEsMULTIPLEsBETWEENmSTRIKE SINGLE"),
   (0x1D90C, "tMULTIPLEtBETWEENmBRUSH SINGLEsMULTIPLEsBETWEENmRUB SINGLEqMULTIPLEqBETWEEN"),
   (0x1D914, "mSURFACE SYMBOLSuBETWEENnQUEEZE LARGE SINGLEuSMALL SINGLEuLARGE MULTIPLE"),
   (0x1D919, "uSMALL MULTIPLEvEQUENTIALmFLICK LARGE SINGLEsSMALL SINGLEsLARGE MULTIPLE"),
   (0x1D91E, "sSMALL MULTIPLEtEQUENTIALmSQUEEZE FLICK ALTERNATINGmMOVEMENT-HINGE UP DOWN LARGE"),
   (0x1D922, "zkSMALLzfSEQUENTIALzcDOWN SEQUENTIALzcUP DOWN ALTERNATING LARGEzwSMALL"),
   (0x1D927, "zcSIDE TO SIDE SCISSORSvWALLPLANE FINGER CONTACTvFLOORPLANE FINGER CONTACT"),
   (0x1D92A, "vWALLPLANE SINGLE STRAIGHT SMALLzwMEDIUMzwLARGEzzcSTznWRIST FLEXzgDOUBLE STRAIGHT"),
   (0x1D930, "znWRIST FLEXznALTERNATINGzy WRIST FLEXzgCROSSzgTRIPLE STRAIGHT MOVEMENTznWRIST FLEX"),
   (0x1D936, "znALTERNATINGzy WRIST FLEXzgBEND SMALLzlMEDIUMzlLARGEzgCORNER SMALLznMEDIUMznLARGE"),
   (0x1D93E, "znROTATIONzhHECK SMALLzmMEDIUMzmLARGEzgBOX SMALLzkMEDIUMzkLARGEzgZIGZAG SMALL"),
   (0x1D946, "znMEDIUMznLARGEzgPEAKS SMALLzmMEDIUMzmLARGE"),
   (0x1D94B, "mTRAVEL-WALLPLANE ROTATION-WALLPLANE SINGLEzxDOUBLEzxALTERNATINGznFLOORPLANE SINGLE"),
   (0x1D94F, "zyDOUBLEzyALTERNATINGzeSHAKINGzeARM SPIRAL SINGLEzpDOUBLEzpTRIPLE"),
   (0x1D955, "mMOVEMENT-DIAGONAL AWAY SMALLzkMEDIUMzkLARGEzpSTzfTOWARDS SMALLznMEDIUMznLARGEzsST"),
   (0x1D95D, "zfBETWEEN AWAY SMALLzsMEDIUMzsLARGEzxSTznTOWARDS SMALLzvMEDIUMzvLARGEzzbST"),
   (0x1D965, "vFLOORPLANE SINGLE STRAIGHT SMALLzxMEDIUMzxLARGEzzdSTzoWRIST FLEXzhDOUBLE STRAIGHT"),
   (0x1D96B, "zoWRIST FLEXzoALTERNATINGzz WRIST FLEXzhCROSSzhTRIPLE STRAIGHT MOVEMENTzoWRIST FLEX"),
   (0x1D971, "zoALTERNATING MOVEMENTzzbWRIST FLEXzhBENDzhCORNER SMALLzoMEDIUMzoLARGEziHECK"),
   (0x1D978, "zhBOX SMALLzlMEDIUMzlLARGEzhZIGZAG SMALLzoMEDIUMzoLARGEzhPEAKS SMALLznMEDIUMznLARGE"),
   (0x1D981, "mTRAVEL-FLOORPLANE ROTATION-FLOORPLANE SINGLEzzDOUBLEzzALTERNATINGzoWALLPLANE SINGLE"),
   (0x1D985, "zyDOUBLEzyALTERNATINGzfSHAKINGmMOVEMENT-WALLPLANE CURVE QUARTER SMALLzuMEDIUMzuLARGE"),
   (0x1D98B, "zzSTzmHALF-CIRCLE SMALLzyMEDIUMzyLARGEzzeSTzmTHREE-QUARTER CIRCLE SMALLzziMEDIUM"),
   (0x1D992, "zgHUMP SMALLzlMEDIUMzlLARGEzgLOOP SMALLzlMEDIUMzlLARGEzlSMALL DOUBLE"),
   (0x1D999, "zgWAVE CURVE DOUBLE SMALLzyMEDIUMzyLARGEzrTRIPLE SMALLzyMEDIUMzyLARGE"),
   (0x1D99F, "zgCURVE THEN STRAIGHTzlD CROSS SMALLztMEDIUMmROTATION-WALLPLANE SINGLEzgDOUBLE"),
   (0x1D9A4, "zgALTERNATEmMOVEMENT-WALLPLANE SHAKINGzgCURVE HITTING FRONT WALL"),
   (0x1D9A7, "zgHUMP HITTING FRONT WALLzgLOOP HITTING FRONT WALLzgWAVE HITTING FRONT WALL"),
   (0x1D9AA, "mROTATION-WALLPLANE SINGLE HITTING FRONT WALLzgDOUBLE HITTING FRONT WALL"),
   (0x1D9AC, "zgALTERNATING HITTING FRONT WALLmMOVEMENT-WALLPLANE CURVE HITTING CHEST"),
   (0x1D9AE, "zgHUMP HITTING CHESTzgLOOP HITTING CHESTzgWAVE HITTING CHEST"),
   (0x1D9B1, "mROTATION-WALLPLANE SINGLE HITTING CHESTzgDOUBLE HITTING CHEST"),
   (0x1D9B3, "zgALTERNATING HITTING CHESTmMOVEMENT-WALLPLANE WAVE DIAGONAL PATH SMALLzzMEDIUM"),
   (0x1D9B6, "zzLARGEvFLOORPLANE CURVE HITTING CEILING SMALLzzeLARGE"),
   (0x1D9B9, "zhHUMP HITTING CEILING SMALL DOUBLEzzdLARGE DOUBLEzzdSMALL TRIPLEzzdLARGE TRIPLE"),
   (0x1D9BD, "zhLOOP HITTING CEILING SMALL SINGLEzzdLARGE SINGLEzzdSMALL DOUBLEzzdLARGE DOUBLE"),
   (0x1D9C1, "zhWAVE HITTING CEILING SMALLzzdLARGEmROTATION-FLOORPLANE SINGLE HITTING CEILING"),
   (0x1D9C4, "zhDOUBLE HITTING CEILINGzhALTERNATING HITTING CEILING"),
   (0x1D9C6, "mMOVEMENT-FLOORPLANE CURVE HITTING FLOOR SMALLzzcLARGE"),
   (0x1D9C8, "zhHUMP HITTING FLOOR SMALL DOUBLEzzbLARGE DOUBLEzzbTRIPLE SMALL TRIPLE"),
   (0x1D9CB, "zziLARGE TRIPLEzhLOOP HITTING FLOOR SMALL SINGLEzzbLARGE SINGLEzzbSMALL DOUBLE"),
   (0x1D9CF, "zzbLARGE DOUBLEzhWAVE HITTING FLOOR SMALLzzbLARGE"),
   (0x1D9D2, "mROTATION-FLOORPLANE SINGLE HITTING FLOORzhDOUBLE HITTING FLOOR"),
   (0x1D9D4, "zhALTERNATING HITTING FLOORmMOVEMENT-FLOORPLANE CURVE SMALLznMEDIUMznLARGEzsST"),
   (0x1D9D9, "znCOMBINEDzhHUMP SMALLzhLOOP SMALLzhWAVE SNAKEznMALLzmLARGE"),
   (0x1D9DF, "mROTATION-FLOORPLANE SINGLEzhDOUBLEzhALTERNATING"),
   (0x1D9E2, "mMOVEMENT-FLOORPLANE SHAKING PARALLELvWALLPLANE ARM CIRCLE SMALL SINGLE"),
   (0x1D9E4, "zrMEDIUM SINGLEzrSMALL DOUBLEzrMEDIUM DOUBLE"),
   (0x1D9E7, "vFLOORPLANE ARM CIRCLE HITTING WALL SMALL SINGLEzzgMEDIUM SINGLEzzgLARGE SINGLE"),
   (0x1D9EA, "zzgSMALL DOUBLEzzgMEDIUM DOUBLEzzgLARGE DOUBLEvWALLPLANE WRIST CIRCLE FRONT SINGLE"),
   (0x1D9EE, "zzDOUBLEvFLOORPLANE WRIST CIRCLE HITTING WALL SINGLEzziDOUBLE"),
   (0x1D9F1, "vWALLPLANE FINGER CIRCLES SINGLEzvDOUBLE"),
   (0x1D9F3, "vFLOORPLANE FINGER CIRCLES HITTING WALL SINGLEzzkDOUBLEmDYNAMIC ARROWHEAD SMALL"),
   (0x1D9F6, "zfLARGEuFASTuSLOWuTENSEuRELAXEDuSIMULTANEOUSzh ALTERNATINGuEVERY OTHER TIMEuGRADUAL"),
   (0x1D9FF, "mHEADq RIMrMOVEMENT-WALLPLANE STRAIGHTzlTILTzbFLOORPLANE STRAIGHTzbWALLPLANE CURVE"),
   (0x1DA05, "zbFLOORPLANE CURVEz CIRCLEmFACE DIRECTION POSITION NOSE FORWARD TILTINGzqUP OR DOWN"),
   (0x1DA09, "zzb TILTINGmEYEBROWS STRAIGHT UPzfNEUTRALzfDOWNmDREAMY EYEBROWS NEUTRAL DOWN"),
   (0x1DA0E, "zdDOWN NEUTRALzdUP NEUTRALzdNEUTRAL UPmFOREHEAD NEUTRALvCONTACTvWRINKLEDmEYES OPEN"),
   (0x1DA15, "rSQUEEZEDrCLOSEDp BLINK SINGLEwMULTIPLEpS HALF OPENrWIDE OPENrHALF CLOSED"),
   (0x1DA1C, "rWIDENING MOVEMENTp WINKpLASHES UPwDOWNwFLUTTERINGpGAZE-WALLPLANE STRAIGHTzn DOUBLE"),
   (0x1DA23, "zoALTERNATINGuFLOORPLANE STRAIGHTzo DOUBLEzpALTERNATINGuWALLPLANE CURVED"),
   (0x1DA28, "uFLOORPLANE CURVEDuWALLPLANE CIRCLINGmCHEEKS PUFFEDtNEUTRALtSUCKEDmTENSE CHEEKS HIGH"),
   (0x1DA2E, "zMIDDLEzLOWmEARSmNOSE NEUTRALrCONTACTrWRINKLESsIGGLESmAIR BLOWING OUTqSUCKING IN"),
   (0x1DA37, "qBLOW SMALL ROTATIONSqSUCK SMALL ROTATIONSmBREATH INHALEtEXHALEmMOUTH CLOSED NEUTRAL"),
   (0x1DA3C, "zFORWARDzCONTACTsSMILEx WRINKLEDyOPENsFROWNx WRINKLEDyOPENsOPEN CIRCLExFORWARD"),
   (0x1DA46, "xWRINKLEDxOVALzc WRINKLEDzdYAWNxRECTANGLEzh WRINKLEDziYAWNsKISSw FORWARDxWRINKLED"),
   (0x1DA50, "sTENSEx FORWARDySUCKEDmLIPS PRESSED TOGETHERp LOWER OVER UPPERqUPPER OVER LOWER"),
   (0x1DA56, "mMOUTH CORNERSsWRINKLES SINGLEzcDOUBLEmTONGUE STICKING OUT FARtLICKING LIPS"),
   (0x1DA5B, "tTIP BETWEEN LIPSxTOUCHING INSIDE MOUTHtINSIDE MOUTH RELAXEDtMOVES AGAINST CHEEK"),
   (0x1DA5F, "tCENTRE STICKING OUTzbINSIDE MOUTHnEETHr MOVEMENTsON TONGUEzc MOVEMENTvLIPS"),
   (0x1DA66, "z MOVEMENTsBITE LIPSmMOVEMENT-WALLPLANE JAWvFLOORPLANE JAWmNECKmHAIRmEXCITEMENT"),
   (0x1DA6D, "mSHOULDER HIP SPINEzPOSITIONSmWALLPLANE SHOULDER HIP MOVE"),
   (0x1DA70, "mFLOORPLANE SHOULDER HIP MOVEmSHOULDER TILTING FROM WAIST"),
   (0x1DA72, "mTORSO-WALLPLANE STRAIGHT STRETCHzdCURVED BENDsFLOORPLANE TWISTING"),
   (0x1DA75, "mUPPER BODY TILTING FROM HIP JOINTSmLIMB COMBINATIONrLENGTH-1y2y3y4y5y6y7mFINGER"),
   (0x1DA7F, "mLOCATION-WALLPLANE SPACEvFLOORPLANE SPACEu HEIGHTvWIDTHvDEPTHvHEAD NECKvTORSO"),
   (0x1DA86, "vLIMBS DIGITSmCOMMAmFULL STOPmSEMICOLONmCOLONmPARENTHESIS"),
   (0x1DA9B, "mFILL MODIFIER-2zb3zb4zb5zb6"),
   (0x1DAA1, "mROTATION MODIFIER-2zf3zf4zf5zf6zf7zf8zf9zf10zg1zg2zg3zg4zg5zg6"),
   (0x1DF00, "aLATIN SMALL LETTER FENG DIGRAPH WITH TRILLtREVERSED SCRIPT G"),
   (0x1DF02, "gLETTER SMALL CAPITAL TURNED GgSMALL LETTER REVERSED K"),
   (0x1DF04, "gLETTER SMALL CAPITAL L WITH BELTgSMALL LETTER LEZH WITH RETROFLEX HOOK"),
   (0x1DF06, "tTURNED Y WITH BELTtREVERSED ENGtTURNED R WITH LONG LEG AND RETROFLEX HOOK"),
   (0x1DF09, "u WITH HOOK AND RETROFLEX HOOKgLETTER RETROFLEX CLICK WITH RETROFLEX HOOK"),
   (0x1DF0B, "gSMALL LETTER ESH WITH DOUBLE BARzn AND CURLtTURNED T WITH CURL"),
   (0x1DF0E, "gLETTER INVERTED GLOTTAL STOP WITH CURLnSTRETCHED C WITH CURLoMALL CAPITAL TURNED K"),
   (0x1DF11, "gSMALL LETTER L WITH FISHHOOKtDEZH DIGRAPH WITH PALATAL HOOK"),
   (0x1DF13, "tL WITH BELT AND PALATAL HOOKtENG WITH PALATAL HOOKtTURNED R WITH PALATAL HOOK"),
   (0x1DF16, "tR WITH FISHHOOK AND PALATAL HOOKtTESH DIGRAPH WITH PALATAL HOOK"),
   (0x1DF18, "tEZH WITH PALATAL HOOKtDEZH DIGRAPH WITH RETROFLEX HOOK"),
   (0x1DF1A, "tI WITH STROKE AND RETROFLEX HOOKtO WITH RETROFLEX HOOK"),
   (0x1DF1C, "tTESH DIGRAPH WITH RETROFLEX HOOKtC WITH RETROFLEX HOOKtS WITH CURL"),
   (0x1E000, "aCOMBINING GLAGOLITIC LETTER AZUzdBUKYzdVEDEzdGLAGOLIzdDOBROzdYESTUzdZHIVETE"),
   (0x1E008, "zeEMLJAzdIZHEzeNITIAL IZHEzdIzdDJERVIzdKAKOzdLJUDIJEzdMYSLITEzdNASHIzdONUzdPOKOJI"),
   (0x1E013, "zdRITSIzdSLOVOzdTVRIDOzdUKUzdFRITUzdHERU"),
   (0x1E01B, "zdSHTAzdTSIzdCHRIVIzdSHAzdYERUzgIzeATI"),
   (0x1E023, "zeUzdSMALL YUS"),
   (0x1E026, "zdYOzdIOTATED SMALL YUSzdBIG YUSzdIOTATED BIG YUSzdFITA"),
   (0x1E100, "aNYIAKENG PUACHUE HMONG LETTER MAzfTSAzfNTAzfTAzfHAzfNAzfXAzfNKAzfCAzfLAzfSAzfZA"),
   (0x1E10C, "zfNCAzgTSAzfKAzfDAzfNYAzgRAzfVAzfNTXAzfTXAzfFAzfRAzfQAzfYAzfNQAzfPAzfXYAzfNPAzfDLA"),
   (0x1E11E, "zfNPLAzfHAHzfMLAzfPLAzfGAzfRRAzfAzgAzfIzfUzfOzgOzfEzgEzfW"),
   (0x1E130, "xTONE-BzdMzdJzdVzdSzdGzdDxSIGN FOR PERSONzhTHINGzhLOCATIONzhANIMALzhINVERTEBRATE"),
   (0x1E13C, "zdXW XWyYLLABLE LENGTHENER"),
   (0x1E140, "xDIGIT ZEROzeONEzeTWOzfHREEzeFOURzfIVEzeSIXzfEVENzeEIGHTzeNINE"),
   (0x1E14E, "xLOGOGRAM NYAJxCIRCLED CA"),
   (0x1E290, "aTOTO LETTER PAmBAmTAmDAmKAmGAmMAmNAnGAmSAmCHAmYAmWAmJAmHAmRAmLAmImBREATHY ImIU"),
   (0x1E2A4, "mBREATHY IUmUmEmBREATHY EmEOmBREATHY EOmOmAEmBREATHY AEmAfSIGN RISING TONE"),
   (0x1E2C0, "aWANCHO LETTER AAoAoBAoCAoDAoGAoYAoPHAoLAoNAoPAoTApHAoFAoSApHAoJAoZAoWAoVAoKAoOoAU"),
   (0x1E2D7, "oRAoMAoKHAoHAoEoIoNGAoUoLLHAoTSApRAoONGoAANGpNGoINGoONoENoAANoNYAoUENoYIHhTONE TUP"),
   (0x1E2ED, "pNImKOIpNIhDIGIT ZEROnONEnTWOoHREEnFOURoIVEnSIXoEVENnEIGHTnNINE"),
   (0x1E2FF, "hNGUN SIGN"),
   (0x1E7E0, "aETHIOPIC SYLLABLE HHYAvUvIvAAvEEvEvO"),
   (0x1E7E8, "sGURAGE HHWAsHHWIvEEvE"),
   (0x1E7ED, "sGURAGE MWIzcEE"),
   (0x1E7F0, "zQWIzcEEzcEzBWIzcEEzKWIzcEEzcEzGWIzcEEzcEzFWIzcEEzPWIzcEE"),
   (0x1E800, "aMENDE KIKAKUI SYLLABLE M001 KIzb2 KAzb3 KUz65 KEEz95 KEz76 KOOz48 KOy179 KUAy004 WI"),
   (0x1E809, "zb5 WAzb6 WUy126 WEEz18 WEzb4 WOOy045 WOy194 WUIz43 WEIy061 WVIz49 WVAy139 WVE"),
   (0x1E814, "y007 MINzb8 MANzb9 MUNz59 MENz94 MONy154 MUANz89 MUENy010 BIzb1 BAzb2 BUy150 BEE"),
   (0x1E81F, "y097 BEy103 BOOz38 BOy013 Izb4 Azb5 Uy163 EEz00 Ez65 OOz47 Oz37 EIzb1 INzb5 INz95 AN"),
   (0x1E82D, "z78 ENy019 SIz20 SAzb1 SUy162 SEEz16 SEz36 SOOy079 SOy196 SIAy025 LIzb6 LAzb7 LU"),
   (0x1E839, "z84 LEEz73 LEz54 LOOy153 LOz10 LONG LEy016 DIzb7 DAzb8 DUz89 DEEy180 DOOzb1 DO"),
   (0x1E844, "y022 TIzb3 TAzb4 TUz91 TEEz55 TEy104 TOOy069 TOz28 JIzb9 JAz30 JUy157 JEEz13 JE"),
   (0x1E850, "z60 JOOy063 JOy175 LONG JOy031 YIzb2 YAzb3 YUy109 YEEy080 YEy141 YOOz21 YOy034 FI"),
   (0x1E85B, "zb5 FAzb6 FUz78 FEEzb5 FEy133 FOOy088 FOy197 FUAz01 FANy037 NINzb8 NANzb9 NUN"),
   (0x1E866, "y117 NENz69 NONz76 HIy041 HAy186 HUy040 HEEz96 HEz42 HOOy140 HOy083 HEEIy128 HOOU"),
   (0x1E871, "y053 HINy130 HANy087 HUNz52 HENy193 HONy046 HUANz90 NGGIz43 NGGAz82 NGGUy115 NGGEE"),
   (0x1E87B, "z46 NGGEz56 NGGOOz20 NGGOz59 NGGAAz27 NGGUAy086 LONG NGGEy106 LONG NGGOO"),
   (0x1E882, "z83 LONG NGGOz55 GIz11 GAz68 GUz90 GEEz66 GUEIzb7 GUANz84 NGENy057 NGONy177 NGUAN"),
   (0x1E88C, "y068 PIz99 PAz50 PUz81 PEEz51 PEy102 POOy066 POy145 MBIy062 MBAy122 MBUy047 MBEE"),
   (0x1E897, "y188 MBEEy072 MBEy172 MBOOzb4 MBOz87 MBUUz61 LONG MBEz05 LONG MBOOz42 LONG MBO"),
   (0x1E89F, "z32 KPIy092 KPAz74 KPUz44 KPEEy108 KPEz12 KPOOz58 KPOz24 GBIy056 GBAy148 GBU"),
   (0x1E8A9, "y093 GBEEy107 GBEy071 GBOOzb0 GBOy171 RAz23 NDIzb9 NDAzb5 NDUz91 NDEEz19 NDE"),
   (0x1E8B3, "y067 NDOOzb4 NDOy152 NJAz92 NJUz49 NJEEz34 NJOOz82 VIzb5 VAz51 VUz73 VEEy085 VE"),
   (0x1E8BE, "y144 VOOy077 VOy164 NYINy058 NYANy170 NYUNy098 NYENz60 NYON"),
   (0x1E8C7, "oDIGIT ONEuTWOvHREEuFOURvIVEuSIXvEVENuEIGHTuNINEoCOMBINING NUMBER TEENSziNS"),
   (0x1E8D2, "zgHUNDREDSzgTHOUSANDSzhEN THOUSANDSzgHUNDRED THOUSANDSzgMILLIONS"),
   (0x1E900, "aADLAM CAPITAL LETTER ALIFvDAALIvLAAMvMIIMvBAvSINNYIIYHEvPEvBHEvRAvEvFAvIvOvDHAvYHE"),
   (0x1E90F, "vWAWvNUNvKAFvYAvUvJIIMvCHIvHAvQAAFvGAvNYAvTUvNHAvVAvKHAvGBEvZALvKPOvSHA"),
   (0x1E922, "gSMALL LETTER ALIFtDAALItLAAMtMIIMtBAtSINNYIIYHEtPEtBHEtRAtEtFAtItOtDHAtYHEtWAWtNUN"),
   (0x1E933, "tKAFtYAtUtJIIMtCHItHAtQAAFtGAtNYAtTUtNHAtVAtKHAtGBEtZALtKPOtSHAgALIF LENGTHENER"),
   (0x1E945, "gVOWEL LENGTHENERgGEMINATION MARKgHAMZAgCONSONANT MODIFIER"),
   (0x1E949, "gGEMINATE CONSONANT MODIFIERgNUKTAhASALIZATION MARK"),
   (0x1E950, "gDIGIT ZEROmONEmTWOnHREEmFOURnIVEmSIXnEVENmEIGHTmNINE"),
   (0x1E95E, "gINITIAL EXCLAMATION MARKoQUESTION MARK"),
   (0x1EC71, "aINDIC SIYAQ NUMBER ONEtTWOuHREEtFOURuIVEtSIXuEVENtEIGHTtNINEtTENuWENTYuHIRTYtFORTY"),
   (0x1EC7E, "uIFTYtSIXTYuEVENTYtEIGHTYtNINETYtONE HUNDREDtTWO HUNDREDuHREE HUNDREDtFOUR HUNDRED"),
   (0x1EC87, "uIVE HUNDREDtSIX HUNDREDuEVEN HUNDREDtEIGHT HUNDREDtNINE HUNDREDtONE THOUSAND"),
   (0x1EC8D, "tTWO THOUSANDuHREE THOUSANDtFOUR THOUSANDuIVE THOUSANDtSIX THOUSANDuEVEN THOUSAND"),
   (0x1EC93, "tEIGHT THOUSANDtNINE THOUSANDtTEN THOUSANDuWENTY THOUSANDuHIRTY THOUSAND"),
   (0x1EC98, "tFORTY THOUSANDuIFTY THOUSANDtSIXTY THOUSANDuEVENTY THOUSANDtEIGHTY THOUSAND"),
   (0x1EC9D, "tNINETY THOUSANDtLAKHxANmLAKH MARKmNUMBER KARORyANtPREFIXED ONEzdTWOzeHREEzdFOUR"),
   (0x1ECA7, "zeIVEzdSIXzeEVENzdEIGHTzdNINEmPLACEHOLDERmFRACTION ONE QUARTERzHALFvTHREE QUARTERS"),
   (0x1ECB0, "mRUPEE MARKmNUMBER ALTERNATE ONEzeTWOzfEN THOUSANDmALTERNATE LAKH MARK"),
   (0x1ED01, "aOTTOMAN SIYAQ NUMBER ONEvTWOwHREEvFOURwIVEvSIXwEVENvEIGHTvNINEvTENwWENTYwHIRTY"),
   (0x1ED0D, "vFORTYwIFTYvSIXTYwEVENTYvEIGHTYvNINETYvONE HUNDREDvTWO HUNDREDwHREE HUNDRED"),
   (0x1ED16, "vFOUR HUNDREDwIVE HUNDREDvSIX HUNDREDwEVEN HUNDREDvEIGHT HUNDREDvNINE HUNDRED"),
   (0x1ED1C, "vONE THOUSANDvTWO THOUSANDwHREE THOUSANDvFOUR THOUSANDwIVE THOUSANDvSIX THOUSAND"),
   (0x1ED22, "wEVEN THOUSANDvEIGHT THOUSANDvNINE THOUSANDvTEN THOUSANDwWENTY THOUSAND"),
   (0x1ED27, "wHIRTY THOUSANDvFORTY THOUSANDwIFTY THOUSANDvSIXTY THOUSANDwEVENTY THOUSAND"),
   (0x1ED2C, "vEIGHTY THOUSANDvNINETY THOUSANDoMARRATANoALTERNATE NUMBER TWOzhHREEzgFOURzhIVEzgSIX"),
   (0x1ED34, "zhEVENzgEIGHTzgNINEzgTENzgFOUR HUNDREDzgSIX HUNDREDzgTWO THOUSANDzhEN THOUSAND"),
   (0x1ED3C, "oFRACTION ONE HALFzcSIXTH"),
   (0x1EE00, "aARABIC MATHEMATICAL ALEFuBEHuJEEMuDAL"),
   (0x1EE05, "uWAWuZAINuHAHuTAHuYEHuKAFuLAMuMEEMuNOONuSEENuAINuFEHuSADuQAFuREHuSHEENuTEHvHEHuKHAH"),
   (0x1EE18, "uTHALuDADuZAHuGHAINuDOTLESS BEHzdNOONzdFEHzdQAF"),
   (0x1EE21, "uINITIAL BEHzdJEEM"),
   (0x1EE24, "zdHEH"),
   (0x1EE27, "zeAH"),
   (0x1EE29, "zdYEHzdKAFzdLAMzdMEEMzdNOONzdSEENzdAINzdFEHzdSADzdQAF"),
   (0x1EE34, "zdSHEENzdTEHzeHEHzdKHAH"),
   (0x1EE39, "zdDAD"),
   (0x1EE3B, "zdGHAIN"),
   (0x1EE42, "uTAILED JEEM"),
   (0x1EE47, "zcHAH"),
   (0x1EE49, "zcYEH"),
   (0x1EE4B, "zcLAM"),
   (0x1EE4D, "zcNOONzcSEENzcAIN"),
   (0x1EE51, "zcSADzcQAF"),
   (0x1EE54, "zcSHEEN"),
   (0x1EE57, "zcKHAH"),
   (0x1EE59, "zcDAD"),
   (0x1EE5B, "zcGHAIN"),
   (0x1EE5D, "zcDOTLESS NOON"),
   (0x1EE5F, "zkQAF"),
   (0x1EE61, "uSTRETCHED BEHzfJEEM"),
   (0x1EE64, "zfHEH"),
   (0x1EE67, "zgAHzfTAHzfYEHzfKAF"),
   (0x1EE6C, "zfMEEMzfNOONzfSEENzfAINzfFEHzfSADzfQAF"),
   (0x1EE74, "zfSHEENzfTEHzgHEHzfKHAH"),
   (0x1EE79, "zfDADzfZAHzfGHAINzfDOTLESS BEH"),
   (0x1EE7E, "znFEH"),
   (0x1EE80, "uLOOPED ALEFzcBEHzcJEEMzcDALzcHEHzcWAWzcZAINzcHAHzcTAHzcYEH"),
   (0x1EE8B, "zcLAMzcMEEMzcNOONzcSEENzcAINzcFEHzcSADzcQAFzcREHzcSHEENzcTEHzdHEHzcKHAHzcTHALzcDAD"),
   (0x1EE9A, "zcZAHzcGHAIN"),
   (0x1EEA1, "uDOUBLE-STRUCK BEHzjJEEMzjDAL"),
   (0x1EEA5, "zjWAWzjZAINzjHAHzjTAHzjYEH"),
   (0x1EEAB, "zjLAMzjMEEMzjNOONzjSEENzjAINzjFEHzjSADzjQAFzjREHzjSHEENzjTEHzkHEHzjKHAHzjTHALzjDAD"),
   (0x1EEBA, "zjZAHzjGHAIN"),
   (0x1EEF0, "uOPERATOR MEEM WITH HAH WITH TATWEELzeHAH WITH DAL")]

end HtGate.Text.CharacterName
