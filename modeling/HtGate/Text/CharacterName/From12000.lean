/-!
# Names of characters from U+12000 to U+16FFF

The names in the order of code points, as strings of names that follow one another from a code point on.
The small letters before a name say how many characters it has in common with the name before it, which
are left out.
-/

namespace HtGate.Text.CharacterName

/-- The names from U+12000 to U+16FFF. -/
def from12000 : List (Nat × String) :=
  [(0x12000, "aCUNEIFORM SIGN Aq TIMES AxBADxGAN2 TENUxHAxIGIxLAGAR GUNUxMUSHxSAGq2qBr TIMES ASH2"),
   (0x1200C, "yDUN3 GUNUyGALzbN2 TENUyHAyIGI GUNUzMINyLAGABySHESHyU PLUS U PLUS UsGUNUr2"),
   (0x12017, "s TIMES BALAGzGAN2 TENUzME PLUS ENzSHA3zTAK4qDqKr TIMES ERIN2ySHITA PLUS GISHqL"),
   (0x12021, "r TIMES ALyDIM2yGISHyHAyKAD3zIySHEyUSHrANrEPHqMARt TIMES SHEqNr OVER ANsTHREE TIMES"),
   (0x12030, "sPLUS NAGA OPPOSING AN PLUS NAGAzdSQUAREDrSHEqPINqRADt TIMES KURrKABqSAL2rH"),
   (0x12039, "s ZIDA TENUtKABA TENUtOVER ASH TUG2 OVER TUG2 TUG2 OVER TUG2 PAPzdOVER ASH"),
   (0x1203D, "zl CROSSING ASH OVER ASH OVER ASHs2sGABpBArDrG3rHAR2rLs OVER BALsAGrRsA2qIr TIMES A"),
   (0x1204B, "yGARyIGI GUNUqUr OVER BU ABzbUNsCROSSING BUrLUGu OVER BULUGrRs2pDArG"),
   (0x12057, "s KISIM5 TIMES A PLUS MASHziMARzhBALAGziIzhGAzj PLUS MASHziIzjR2ziUDzhHAzhIR"),
   (0x12062, "zj PLUS LUzhKAKzhLAziUzj PLUS MASH2zjMzhNEzhPAP PLUS PAPzhSIzhTAK4zhU2 PLUS GIR2ziSH"),
   (0x1206E, "rMrRsA3t4qIrBrMs TIMES SHEs2rNs KASKAL U GUNU DISHrSHqUr OVER DUsGUNUsSHESHIGrB"),
   (0x1207F, "s TIMES ESH2s2rGsUDrHrNs3t GUNUy GUNUs4rR2pEq TIMES PAPrOVER E NUN OVER NUNq2"),
   (0x1208E, "r TIMES A PLUS HA PLUS DAyGARyMIySALzHEyUqDINqGIRqLqNr TIMES GAN2zd TENUyME"),
   (0x1209B, "sCROSSING ENsOPPOSING ENsSQUAREDqRENrIN2qSH2qZENt TIMES Azc PLUS LALzl TIMES LALzcN"),
   (0x120A6, "zbBADzbDUN3 GUNUzk GUNUzbHAzd GUNUzbIGI GUNUzbKASKALzh SQUAREDzcU3zbLAzdL TIMES LAL"),
   (0x120B1, "zcIzcUzbU2zcDpGAr GUNUr2s TIMES A PLUS DA PLUS HAzhHAzhIGIzbB2 TENU PLUS TABzbNzbSH"),
   (0x120BE, "zd2 PLUS GALzBADzcR PLUS RAzbURzd PLUS RAzDAzbIzcM TIMES SHEzbUBzELzc PLUS LAzbN"),
   (0x120CA, "zc TIMES GAN2 TENUzGAN2 TENUzcRzbIzc4zd PLUS AzcR2 PLUS SUzHA PLUS LU PLUS ESH2zcL"),
   (0x120D3, "zd PLUS LAzbI PLUS LIzbUB2zIGI GUNUzbSH PLUS HU PLUS ASHzKAKzcSKALzbIDzd PLUS LAL"),
   (0x120DC, "zbU3 PLUS ANzLAzME PLUS ENzbIzNUNzd OVER NUNzPAzSALzcRzbHEzd PLUS TURzcIDzbUMzTAK4zU"),
   (0x120EB, "zbDzc PLUS DUtOVER GA2rBAt CROSSING GABArDs OVER GAD GAR OVER GARrL"),
   (0x120F3, "s GAD OVER GAD GAR OVER GARsAMrMrNs2t TENUuOVER GAN2uCROSSING GAN2rRs3rSHANqESHTIN"),
   (0x120FF, "w TIMES KURqIr TIMES EyUsCROSSING GIr4s OVER GI4tCROSSING GI4rDIMrR2t GUNUs3"),
   (0x1210B, "t TIMES A PLUS IGIzbGAN2 TENUzbIGIzbLU PLUS IGIzbPArSALsHt CROSSING GISHuTIMES BAD"),
   (0x12114, "zbTAK4vENUqUr CROSSING GUr2s TIMES KAKzd TIMES IGI GUNUzNUNzSAL PLUS TUG2tGUNUrD"),
   (0x1211F, "s TIMES A PLUS KURzKURtOVER GUD LUGALrLrMs TIMES SHErRs7sUNtSHpHAr TENUsGUNUrLqI"),
   (0x1212E, "r TIMES ASHzc2yBADyDISHyGADyKINyNUNySHEyUqUrB2t TIMES ANzbHALzbKASKALzbLISHzbUDrL2pI"),
   (0x12140, "q AqBqDIMt OVER IDIM BURzfSQUAREDqGrIs DIBtRItOVER IGI SHIR OVER SHIR UD OVER UD"),
   (0x1214A, "tGUNUqLr TIMES GAN2 TENUr2qMr TIMES TAK4sCROSSING IMsOPPOSING IMsSQUAREDrINqNqRqSH"),
   (0x12157, "pKAr TIMES AzDzb PLUS KU3zSH2yBADzbLAGzbRzIyERIN2zSH2yGAzbLzbN2 TENUzbR"),
   (0x12166, "zc PLUS SHA3 PLUS AzIzbR2zbSH PLUS SARzeCROSSING GISHzUzbR7yIGIzMyKAKzIzbDyLIzUyME"),
   (0x12175, "zb PLUS DUzhGIzhTEzIzb PLUS NUNUZyNEzUNyPIyRUySAzbRzHAzbEzbIDzbUzIGzUHURyTARyUz2zD"),
   (0x1218A, "zMUM TIMES PAzSHyZIr2s CROSSING KA2rBrD2s3s4s5t OVER KAD5rKs TIMES IGI GUNUrL"),
   (0x12198, "s TIMES BADtCROSSING KALrM2s4rSKALv LAGAB TIMES U OVER LAGAB TIMES U"),
   (0x1219E, "wOVER KASKAL LAGAB TIMES U OVER LAGAB TIMES UqESH2qIr TIMES BADyUzDrDrNrSALsHsIM5"),
   (0x121A9, "v OVER KISIM5qUr OVER HI TIMES ASH2 KU OVER HI TIMES ASH2r3r4s VARIANT FORMr7rL"),
   (0x121B1, "s GUNUrNrRs OPPOSING KURrSHU2qWU318pLArGABu TIMES Azd PLUS DA PLUS HAzjGARzjLALzdL"),
   (0x121BE, "zdNzdSH ZIDA TENUzcBADzdIzcDARzcENzcGAzeRzdUDzf PLUS GUDzcHAzeLzdI TIMES NUN"),
   (0x121CB, "zcIGI GUNUzdMze PLUS HAzkLUzcKIzeNzdU3zeLzf PLUS HI PLUS AzcLAGABzdISHzdUzeLzcME"),
   (0x121D9, "ze PLUS ENzdUSHzcNEzcSHE PLUS SUMzeITA PLUS GISH PLUS ERIN2zsTENUzeU2zg PLUS SHU2"),
   (0x121E1, "zdUMzcTAGzeK4zdE PLUS A PLUS SU PLUS NAzcUzd PLUS AzjU PLUS Uzd2 PLUS ASHzdDzdSH"),
   (0x121EB, "vSQUAREDtRu TIMES SHEzf PLUS SUMvGUNUz OVER LAGAR GUNU SHErHSHUrLs TIMES LALrM"),
   (0x121F5, "s TIMES KURzd PLUS RUqIrLrMMU2rSHqUr TIMES BADr2s TIMES ALzBADzESH2ze TENUzGAN2 TENU"),
   (0x12203, "zHI TIMES BADzIMzKAD2zd3ze PLUS ASHzbIzLA PLUS ASHzcGABzME PLUS ENzNEzbUzSI PLUS ASH"),
   (0x1220F, "zcK2 PLUS BUzTUG2uENUtCROSSING LU2tOPPOSING LU2tSQUAREDuHESHIGr3rGALu OVER LUGAL"),
   (0x12219, "wPPOSING LUGALvSHESHIGrHrLrMs OVER LUMzc GAR OVER GARpMAr TIMES TAK4sGUNUr2rHrRrSHt2"),
   (0x12228, "qErSqIrNqUr OVER MUrGs GUNUrNSUBrRGU2rSHt TIMES AzbKURzbZAuOVER MUSH"),
   (0x12237, "ze TIMES A PLUS NAuCROSSING MUSHt3u TIMES Azd PLUS DIzcDIvGUNUpNAr2rGAt INVERTED"),
   (0x12242, "uTIMES SHU TENUuOPPOSING NAGAtRrM NUTILLUrMs2qEr TIMES AyUDsSHESHIGqIr TIMES Er2rM"),
   (0x12250, "s TIMES GAN2 TENUzcR PLUS GAN2 TENUrNDA2v TIMES ANzeSHzg PLUS ASHzdGUD"),
   (0x12257, "zdME PLUS GAN2 TENUzdNEzeUNzdSHEzg PLUS A ANznSHzp PLUS ASHzdU2 PLUS ASHzeSHrSAGqU"),
   (0x12262, "r11rNs LAGAR TIMES GARzgMASHzgSALzj OVER NUN LAGAR TIMES SALzgUSHtTENUtOVER NUN"),
   (0x1226B, "tCROSSING NUNzg LAGAR OVER LAGARsUZu AB2 TIMES ASHGABzgBIzgDUGzgGUDzgIGI GUNUzgKAD3"),
   (0x12274, "zgLAzgNEzgSILA3zgU2vKISIM5 TIMES BIzl UpPArDrNrPqESH2qIr TIMES AzByBIzUyEyIzByUz2"),
   (0x12289, "sCROSSING PIrRIGu TIMES KALzcUDzcZAvOPPOSING PIRIGpRArBqIqUpSArG NUTILLUrGs TIMES A"),
   (0x12297, "zDUzcBzHAzKAKzbURzLUMzMIzNUNzSALzbHIDzTABzU2zbBzbMzbRzbSHtOVER SAGtGUNUrL"),
   (0x122AA, "s LAGAB TIMES ASH2rNGA2rRqHAs3t TIMES AzbBADzbGISHzbNEzbSHU2zbTURzbUzc PLUS As6sB6"),
   (0x122B9, "sR2rEs HUtOVER SHE GAD OVER GAD GAR OVER GARzdTAB OVER TAB GAR OVER GARsG9sNsSHu2"),
   (0x122C2, "uLAMrIDt TIMES AzbIMsMt TIMES AzbBALzcULUGzbDINzbGARzbIGIze GUNUzbKUSHU2zbLULzbMUG"),
   (0x122D1, "zbSALsNIGsRt TENUuOVER SHIR BUR OVER BURsTArUs OVER INVERTED SHUs2sBURqIr GUNUrGs4"),
   (0x122DF, "t OVER SIG4 SHU2rK2rLA3qUr OVER SUrDs2rHURrMsASHrRs9pTAr ASTERISKsTIMES HIyMIsGUNUrB"),
   (0x122F1, "s OVER TAB NI OVER NI DISH OVER DISHtSQUAREDrGs TIMES BIzGUDzSHEzcUzTUG2zUDrK4rRqE"),
   (0x122FD, "r GUNUqIr TENUrLrRs TIMES TAK4tOVER TIRzc GAD OVER GAD GAR OVER GARqUrG2rKrMrR"),
   (0x1230A, "s OVER TUR ZA OVER ZApUq GUDrU UrOVER U PA OVER PA GAR OVER GARySUR OVER SUR"),
   (0x12310, "yU REVERSED OVER U REVERSEDq2qBqDr KUSHU2sTIMES BADyMIyU PLUS U PLUS Uzo GUNUsGUNU"),
   (0x1231A, "sSHESHIGz TIMES BADrUGqMr TIMES LAGAByME PLUS DAySHA3yUrBINrUMt TIMES KASKALzbPAqN"),
   (0x12327, "r GUNUqRr CROSSING URsSHESHIGr2s TIMES A PLUS HAzhNAzbLzHAzNUNzU2zc PLUS ASHziBIr4rI"),
   (0x12336, "s3rUs TIMES AzbSHGABzBARzDUNzGAzcLzcN2 TENUzcRzbUzHAzIGIzbMzbSHzKIzLUMzMINzPAzSHE"),
   (0x1234A, "zbIG4zTUzU PLUS GUDzbDzbRUDAsDAu TIMES UqSHs TIMES AzKUzcRzTAK4sXs2sUMXqTUKIqZ3"),
   (0x1235B, "s TIMES KASKALrUpZAr TENUsSQUARED TIMES KURrGrMXqE2qIr OVER ZIr3rBs KABA TENUrGrZ2qU"),
   (0x1236B, "r5s TIMES ArBURrMpKAP ELAMITEpAB TIMES NUNr2 TIMES AqMAR TIMES KUG"),
   (0x12373, "pDAG KISIM5 TIMES U2 PLUS MASHs3qISH PLUS SHUqUB TIMES SHEpEZEN TIMES GUDzbSHE"),
   (0x12379, "pGA2 TIMES AN PLUS KAK PLUS AzbSH2qE22qIGpHUSHpKA TIMES ANSHEzSH3yGISHzUD"),
   (0x12382, "yHI TIMES ASH2yLUMyPAySHULyTUyUR2pLAGAB TIMES GIqU2 SHESHIG TIMES BAD"),
   (0x1238A, "tTIMES ESH2 PLUS LALzSHUpMESHqUSH3 TIMES ZApNA4qINs9sDA2 TIMES BALzdGI"),
   (0x12393, "qU11 ROTATED NINETY DEGREESpPESH2 ASTERISKqIR2pSAG TIMES IGI GUNUpTI2pUM TIMES MEq U"),
   (0x12400, "kNUMERIC SIGN TWO ASHyHREE ASHxFOUR ASHyIVE ASHxSIX ASHyEVEN ASHxEIGHT ASHxNINE ASH"),
   (0x12408, "xTHREE DISHxFOUR DISHyIVE DISHxSIX DISHyEVEN DISHxEIGHT DISHxNINE DISHxFOUR UyIVE U"),
   (0x12411, "xSIX UyEVEN UxEIGHT UxNINE UxONE GESH2xTWO GESH2yHREE GESH2xFOUR GESH2yIVE GESH2"),
   (0x1241A, "xSIX GESH2yEVEN GESH2xEIGHT GESH2xNINE GESH2xONE GESHUxTWO GESHUyHREE GESHU"),
   (0x12421, "xFOUR GESHUyIVE GESHUxTWO SHAR2yHREE SHAR2zj VARIANT FORMxFOUR SHAR2yIVE SHAR2"),
   (0x12428, "xSIX SHAR2yEVEN SHAR2xEIGHT SHAR2xNINE SHAR2xONE SHARUxTWO SHARUyHREE SHARU"),
   (0x1242F, "zj VARIANT FORMxFOUR SHARUyIVE SHARUxSHAR2 TIMES GAL PLUS DISHztMINxONE BURU"),
   (0x12435, "xTWO BURUyHREE BURUzi VARIANT FORMxFOUR BURUyIVE BURUxTHREE VARIANT FORM ESH16zu21"),
   (0x1243C, "xFOUR VARIANT FORM LIMMUzv4zv AzwBxSIX VARIANT FORM ASH9yEVEN VARIANT FORM IMIN3zv A"),
   (0x12443, "zwBxEIGHT VARIANT FORM USSUzv3xNINE VARIANT FORM ILIMMUzw3zw4zw AxTWO ASH TENU"),
   (0x1244B, "yHREE ASH TENUxFOUR ASH TENUyIVE ASH TENUxSIX ASH TENUxONE BAN2xTWO BAN2yHREE BAN2"),
   (0x12452, "xFOUR BAN2zh VARIANT FORMyIVE BAN2zh VARIANT FORMxNIGIDAMINzeESHxONE ESHE3xTWO ESHE3"),
   (0x1245A, "xONE THIRD DISHxTWO THIRDS DISHxFIVE SIXTHS DISHxONE THIRD VARIANT FORM A"),
   (0x1245E, "xTWO THIRDS VARIANT FORM AxONE EIGHTH ASHzcQUARTER ASHyLD ASSYRIAN ONE SIXTH"),
   (0x12462, "zpQUARTERyNE QUARTER GURzcHALF GURxELAMITE ONE THIRDzgTWO THIRDSzgFORTYzhIFTY"),
   (0x12469, "xFOUR U VARIANT FORMyIVE U VARIANT FORMxSIX U VARIANT FORMyEVEN U VARIANT FORM"),
   (0x1246D, "xEIGHT U VARIANT FORMxNINE U VARIANT FORM"),
   (0x12470, "kPUNCTUATION SIGN OLD ASSYRIAN WORD DIVIDERzcVERTICAL COLONzcDIAGONAL COLON"),
   (0x12473, "zlTRICOLONzlQUADCOLON"),
   (0x12480, "kSIGN AB TIMES NUN TENUySHU2qD TIMES ESH2pBAD TIMES DISH TENUrHAR2 TIMES AB2zdNIzdZA"),
   (0x12487, "qU OVER BU TIMES NA2pDA TIMES TAK4rG TIMES KURqIM TIMES IGIzU U Us2 TIMES UD"),
   (0x1248D, "qUG TIMES ANSHEzbSHzd AT LEFTzDINzbUNzERIN2zGAzbIzcR2 GUNUzcSHzHAzbIzIGI GUNUzKASKAL"),
   (0x1249B, "zbURzcSHU2zg PLUS KASKALzLAK-020zcMzd TIMES KURzbUH PLUS GISHzMASHzbESzbIzNIzPIzSHE"),
   (0x124A8, "zbI GUNUpE2 TIMES KURyPAPqRIN2 XqSH2 CROSSING ESH2qZEN SHESHIG TIMES ASHzjHI"),
   (0x124AF, "zjIGI GUNUzjLAzlLzjMEzlSzjSUuTIMES SUpGA2 TIMES BAHAR2zDIM GUNUzbUG TIMES IGI GUNU"),
   (0x124B9, "zkKASKALzERENzGAzcR PLUS DIzjNEzHA PLUS AzKUSHU2 PLUS KASKALzLAMzd TIMES KURzbUH"),
   (0x124C3, "zMUSHzNEzc PLUS E2ziGIzSHIMzZIZ2rBA ROTATED NINETY DEGREESqESHTIN TIMES U"),
   (0x124CB, "qISH TIMES GISH CROSSING GISHqU2 TIMES IGI GUNUrD PLUS GISH TIMES TAK4pHA TENU GUNU"),
   (0x124CF, "qI TIMES ASH OVER HI TIMES ASHpKA TIMES BUyKAyU U UzRpLAGAB TIMES ZU OVER ZUrK-003"),
   (0x124D6, "u21v5u30u50v1u62u79 OVER LAK-079 GUNUu80v1 OVER LAK-081u92t130u42t210v9u20v5v8u38u65"),
   (0x124E9, "v6t343v7v8u83v4u90t441v9w TIMES GUzeIGIzePAP PLUS LU3znPAP PLUS LU3zeU2 PLUS BAu50v7"),
   (0x124F9, "u70u83u90v2v3v5t550t608u17w TIMES ASHzeBADzeDUN3 GUNU GUNUzeKU3zeLAzeTARzfEzeU2zfD"),
   (0x1250B, "zfRUDAu36u48w TIMES DUBzeGAzeIGIzh GUNUzeNIzePAP PLUS PAP PLUS LU3zeSHESH PLUS KI"),
   (0x12515, "zeUDzfRUDAt724u49qU2 GUNU TIMES ASHtTIMES DISHzHALzPAPzd PLUS PAP PLUS LU3zTAK4"),
   (0x1251F, "pMI PLUS ZA7qUSH OVER MUSH TIMES GAzlKAKpNINDA2 TIMES DIM GUNUzdGISHzeULzdHIzdKESH2"),
   (0x12527, "zdLAK-050zdMASHzdPAP PLUS PAPzdUze PLUS UzeRUDApSAG GUNU TIMES HAtTIMES EN"),
   (0x1252F, "zSHE AT LEFTzTAK4qHA6 TENUrE OVER SHEtPLUS HUB2yNAM2ySARrU2 PLUS DUG TIMES NI"),
   (0x12537, "zE2 TIMES ANqI TIMES TAK4pTAK4 PLUS SAGqUM TIMES GAN2 TENUzTHREE DISHpUR2 INVERTED"),
   (0x1253D, "tTIMES UDrU TIMES DARA3zLAK-668zbU3pZA7qU OVER ZU PLUS SARr5 TIMES THREE DISH TENU"),
   (0x12F90, "bYPRO-MINOAN SIGN CM001w2w4w5w6w7w8w9v10w1w2xBw3w5w7w9v21w3w4w5w6w7w8w9v30w3w4w5w6w7"),
   (0x12FAE, "w8w9v40w1w4w6w7w9v50w1w2w3w4w5w6w8w9v60w1w2w3w4w6w7w8w9v70w1w2w3w4w5xBw6w8w9v80w1w2"),
   (0x12FD5, "w3w4w5w6w7w8w9v90w1w2w4w5w6w7w8w9u100w1w2w3w4w5w7w8w9v10w2w4u301w2"),
   (0x13000, "aEGYPTIAN HIEROGLYPH A001x2x3x4x5yAx6yAyBx7x8x9w10x1x2x3x4yAx5x6x7yAx8x9w20x1x2x3x4"),
   (0x1301D, "x5x6x7x8x9w30x1x2yAx3x4x5x6x7x8x9w40yAx1x2yAx3yAx4x5yAx6x7x8x9w50x1x2x3x4x5x6x7x8x9"),
   (0x13045, "w60x1x2x3x4x5x6x7x8x9w70uB001x2x3x4x5yAx6x7x8x9uC001x2yAyByCx3x4x5x6x7x8x9w10yAx1x2"),
   (0x1306A, "x3x4x5x6x7x8x9w20x1x2x3x4uD001x2x3x4x5x6x7x8yAx9w10x1x2x3x4x5x6x7x8x9w20x1x2x3x4x5x6"),
   (0x13091, "x7yAx8x9w30x1yAx2x3x4yAx5x6x7x8x9w40x1x2x3x4x5x6yAx7x8yAx9w50yAyByCyDyEyFyGyHyIx1x2"),
   (0x130B9, "yAx3x4yAx5x6x7x8x9w60x1x2x3x4x5x6x7yAyByCyDyEyFyGyHuE001x2x3x4x5x6x7x8yAx9yAw10x1x2"),
   (0x130E0, "x3x4x5x6yAx7yAx8x9w20yAx1x2x3x4x5x6x7x8yAx9w30x1x2x3x4yAx6x7x8uF001yAx2x3x4x5x6x7x8"),
   (0x13107, "x9w10x1x2x3yAx4x5x6x7x8x9w20x1yAx2x3x4x5x6x7x8x9w30x1yAx2x3x4x5x6x7yAx8yAx9w40x1x2x3"),
   (0x1312F, "x4x5yAx6yAx7yAx8x9w50x1yAyByCx2x3uG001x2x3x4x5x6yAx7yAyBx8x9w10x1yAx2x3x4x5x6x7x8x9"),
   (0x13156, "w20yAx1x2x3x4x5x6yAx7x8x9w30x1x2x3x4x5x6yAx7yAx8x9w40x1x2x3yAx4x5yAx6x7x8x9w50x1x2x3"),
   (0x1317E, "x4uH001x2x3x4x5x6yAx7x8uI001x2x3x4x5yAx6x7x8x9yAw10yAx1yAx2x3x4x5uK001x2x3x4x5x6x7x8"),
   (0x131A3, "uL001x2yAx3x4x5x6yAx7x8uM001yAyBx2x3yAx4x5x6x7x8x9w10yAx1x2yAyByCyDyEyFyGyHx3x4x5yA"),
   (0x131C9, "x6yAx7yAx8x9w20x1x2yAx3x4yAx5x6x7x8yAx9w30x1yAx2x3yAyBx4x5x6x7x8x9w40yAx1x2x3x4uN001"),
   (0x131F0, "x2x3x4x5x6x7x8x9w10x1x2x3x4x5x6x7x8yAyBx9w20x1x2x3x4x5yAx6x7x8x9w30x1x2x3yAx4yAx5yA"),
   (0x13218, "x6x7yAx8x9w40x1x2vL001y2y3y4y5zAy6y7y8y9x10y1y2y3y4y5y6y7zAy8y9x20vU001y2y3y4y5y6y7"),
   (0x1323D, "y8y9x10zAy1zAy2y3y4y5y6y7y8zAy9x20y1y2zAuO001yAx2x3x4x5yAx6yAyByCyDyEyFx7x8x9w10yAyB"),
   (0x13264, "yCx1x2x3x4x5x6x7x8x9yAw20yAx1x2x3x4yAx5yAx6x7x8x9yAw30yAx1x2x3yAx4x5x6yAyByCyDx7x8x9"),
   (0x1328D, "w40x1x2x3x4x5x6x7x8x9w50yAyBx1uP001yAx2x3yAx4x5x6x7x8x9w10x1uQ001x2x3x4x5x6x7uR001x2"),
   (0x132B1, "yAx3yAyBx4x5x6x7x8x9w10yAx1x2x3x4x5x6yAx7x8x9w20x1x2x3x4x5x6x7x8x9uS001x2yAx3x4x5x6"),
   (0x132D8, "yAx7x8x9w10x1x2x3x4yAyBx5x6x7yAx8x9w20x1x2x3x4x5x6yAyBx7x8x9w30x1x2x3x4x5yAx6x7x8x9"),
   (0x13300, "w40x1x2x3x4x5x6uT001x2x3yAx4x5x6x7yAx8yAx9yAw10x1yAx2x3x4x5x6yAx7x8x9w20x1x2x3x4x5x6"),
   (0x13327, "x7x8x9w30x1x2yAx3yAx4x5x6uU001x2x3x4x5x6yAyBx7x8x9w10x1x2x3x4x5x6x7x8x9w20x1x2x3yAx4"),
   (0x1334E, "x5x6x7x8x9yAw30x1x2yAx3x4x5x6x7x8x9w40x1x2uV001yAyByCyDyEyFyGyHyIx2yAx3x4x5x6x7yAyB"),
   (0x13375, "x8x9w10x1yAyByCx2yAyBx3x4x5x6x7x8x9w20yAyByCyDyEyFyGyHyIyJyKyLx1x2x3yAx4x5x6x7x8yAx9"),
   (0x1339E, "yAw30yAx1yAx2x3yAx4x5x6x7yAx8x9w40yAuW001x2x3yAx4x5x6x7x8x9yAw10yAx1x2x3x4yAx5x6x7yA"),
   (0x133C5, "x8yAx9w20x1x2x3x4yAx5uX001x2x3x4yAyBx5x6yAx7x8yAuY001yAx2x3x4x5x6x7x8uZ001x2yAyByCyD"),
   (0x133EA, "x3yAyBx4yAx5yAx6x7x8x9w10x1x2x3x4x5yAyByCyDyEyFyGyHyIx6yAyByCyDyEyFyGyHuAA001y2y3y4"),
   (0x13411, "y5y6y7zAzBy8y9x10y1y2y3y4y5y6y7y8y9x20y1y2y3y4y5y6y7y8y9x30y1y2"),
   (0x13430, "uVERTICAL JOINERuHORIZONTAL JOINERuINSERT AT TOP STARTzfBOTTOM STARTzfTOP END"),
   (0x13435, "zfBOTTOM ENDuOVERLAY MIDDLEuBEGIN SEGMENTuEND SEGMENT"),
   (0x14400, "aANATOLIAN HIEROGLYPH A001y2y3y4y5y6y7y8y9x10zAy1y2y3y4y5y6y7y8y9x20y1y2y3y4y5y6zAy7"),
   (0x1441D, "y8y9x30y1y2y3y4y5y6y7y8y9zAx40y1zAy2y3y4y5zAy6zAzBy7y8y9x50y1y2y3y4y5y6y7y8y9x60y1y2"),
   (0x14445, "y3y4y5y6zAzBzCy7y8y9x70y1y2y3y4y5y6y7y8y9x80y1y2y3y4y5y6y7y8y9x90y1y2y3y4y5y6y7zAy8"),
   (0x1446D, "zAy9w100zAy1zAy2zAy3y4zAzBzCy5zAzBy6y7zAzBzCy8y9x10zAzBy1y2y3y4y5zAy6y7y8y9x20y1y2y3"),
   (0x14495, "y4y5zAy6y7y8y9x30y1y2y3y4y5zAy6y7y8y9x40y1y2y3y4y5y6y7y8y9x50y1y2y3y4y5y6y7y8y9x60y1"),
   (0x144BD, "y2y3y4y5y6y7y8y9x70y1y2y3y4y5y6y7y8y9x80y1y2y3y4y5y6y7y8y9x90y1y2y3y4y5y6y7y8y9w200"),
   (0x144E4, "y1y2zAzBy3y4y5y6y7zAy8y9zAx10y1y2y3y4y5zAy6zAy7y8y9x20y1y2y3y4y5y6y7zAy8y9x30y1y2y3"),
   (0x1450C, "y4y5y6y7y8y9x40y1y2y3y4y5y6y7y8y9x50y1y2y3y4y5y6y7y8y9x60y1y2y3y4y5y6y7zAy8y9x70y1y2"),
   (0x14534, "y3y4y5y6y7y8y9x80y1y2y3y4y5y6y7y8y9zAx90y1y2y3y4zAy5y6y7y8y9zAw300y1y2y3y4y5y6y7y8y9"),
   (0x1455C, "zAx10y1y2y3y4y5y6y7y8y9x20y1y2y3y4y5y6y7y8y9zAx30y1y2AzBzCy3y4y5y6zAzBzCy7y8y9x40y1"),
   (0x14583, "y2y3y4y5y6y7y8y9x50y1y2y3y4y5y6y7y8y9zAx60y1y2y3y4zAy5y6y7y8zAy9x70y1zAy2y3y4y5y6y7"),
   (0x145AB, "y8y9x80y1zAy2y3 RA OR RIzAy4y5y6zAy7y8y9x90y1y2y3 EIGHTy4y5y6y7y8y9w400y1y2y3y4y5y6"),
   (0x145CB, "y7y8y9x10 BEGIN LOGOGRAM MARKzA END LOGOGRAM MARKy1y2y3y4y5y6y7y8y9x20y1y2y3y4y5y6y7"),
   (0x145E1, "y8y9x30y1y2y3y4y5y6y7y8y9x40y1y2y3y4y5y6y7y8y9x50zAy1y2y3y4y5y6y7zAy8y9x60y1y2y3y4y5"),
   (0x14609, "y6y7y8y9x70y1y2y3y4y5y6y7y8y9x80y1y2y3y4y5y6y7y8y9x90y1y2y3y4y5y6y7w501y2y3y4y5y6y7"),
   (0x14630, "y8y9x10y1y2y3y4y5y6y7y8y9x20y1y2y3y4y5y6y7y8y9x30"),
   (0x16800, "aBAMUM LETTER PHASE-A NGKUE MFONvGBIEE FONvPON MFON PIPAEMGBIEEzlBAvNAA MFON"),
   (0x16805, "vSHUENSHUETvTITA MFONvNZA MFONvSHINDA PA NJIvPON PA NJI PIPAEMGBIEEznBAvMAEMBGBIEE"),
   (0x1680C, "vTU MAEMBAvNGANGUvMAEMVEUXxNSUAEwVEUAENGAMvSEUNYAMvNTOQPENvKEUKEUTNDAvNKINDIvSUU"),
   (0x16816, "vNGKUENZEUMvLAPAQwET KUTvNTAP MFAAvMAEKEUPvPASHAEvGHEUAERAEvPAMSHAEvMON NGGEUAET"),
   (0x1681F, "vNZUN MEUTvU YUQ NAEvGHEUAEGHEUAEvNTAP NTAAvSISAvMGBASAwEUNJOMNDEUQwOOMPUQvKAFA"),
   (0x16828, "vPA LEERAEWAvNDA LEERAEWAvPETvMAEMKPENvNIKAvPUPvTUAEPvLUAEPvSONJAMvTEUTEUWENvMAENYI"),
   (0x16833, "vKETvNDAANGGEUAETvKUOQvMOOMEUTvSHUMvLOMMAEvFIRIvROMvKPOQvSOQvMAP PIEETvSHIRAEvNTAP"),
   (0x16840, "vSHOQ NSHUT YUMvNYIT MONGKEUAEQvPAARAEvNKAARAEvUNKNOWNvNGGENvMAESIvNJAMvMBANYIvNYET"),
   (0x1684A, "vTEUAENvSOTvPAAMvNSHIEEvMAEMvNYIvKAQvNSHAvVEEvLUvNENwAQvMBAQtB NSHUETvTU MAEMGBIEE"),
   (0x16859, "vSIEEwET TUvLOM NTEUMvMBA MAELEEvKIEEMvYEURAEvMBAARAEvKAMvPEESHIvYAFU LEERAEWA"),
   (0x16863, "vLAM NSHUT NYAMvNTIEE SHEUOQwDU NJAAvGHEUGHEUAEMvPITvTU NSIEEvSHET NJAQyUAEQTU"),
   (0x1686B, "vMFON TEUAEQwBIT MBAAKETvNYI NTEUMvKEUPUQvGHEUGHENvKEUYEUXvLAANAEvPARUMvVEUM"),
   (0x16874, "vNGKINDI MVOPxGEU MBUvWUAETvSAKEUAEvTAAMvMEUQvNGGUOQzc LARGEvMFIYAQvSUEvMBEURI"),
   (0x1687F, "wONTIEENvNYAEMAEvPUNGAAMvMEUT NGGEETvFEUXvMBUOQvFEEvKEUAEMvMA NJEUAENAzbUQAvLET"),
   (0x1688A, "vNGGAAMwSENvMAvKIQvNGOMtC NGKUE MAEMBAwZAvYUMvWANGKUOQvNGGENwDEUAEREEwGKAQvGHARAE"),
   (0x16897, "vMBEEKEETvGBAYIvNYIR MKPARAQ MEUNwTU MBITvMBEUMvPIRIEENvNDOMBUvMBAA CABBAGE-TREE"),
   (0x1689F, "vKEUSHEUAEPvGHAPvKEUKAQvYU MUOMAEvNZEUMvMBUEvNSEUAENvMBITvYEUQvKPARAQwAAvSEUXvNDIDA"),
   (0x168AC, "vTAASHAEvNJUEQvTITA YUEvSUAETvNGGUAEN NYAMvVEUXvNANSANAQvMA KEUAERIvNTAAwGGUONvLAP"),
   (0x168B7, "vMBIRIEENwGBASAQvNTEUNGBAvTEUTEUXvNGGUMvFUEvNDEUTwSAxHAQvBUNGvVEUAEPENvMBERAEvRU"),
   (0x168C4, "vNJAEMvLAMvTITUAEPvNSUOT NGOMwJEEEEvKETvNGGUvMAESIwBUAEMvLUvKUTvNJAMwGOMvWUPvNGGUEET"),
   (0x168D3, "wSOMwTENvKUOP NKAARAEvNSUNwDAMvMA NSIEEvYAAvNDAPvSHUEQwETFONvMBIwAEMBAwBANYIvKEUSEUX"),
   (0x168E1, "vMBEUXvKEUMvMBAA PICKETvYUWOQvNJEUXvMIEEwUAEvSHIQvKEN LAWzFATIGUEvNGAQwAQvLIQvPINwEN"),
   (0x168F0, "vTETtD MBUOvWAPvNJIvMFONvNJIEEvLIEEvNJEUTwSHEEwGGAAMAEwYAMvWUAENvNGKUNvSHEEvNGKAP"),
   (0x168FF, "vKEUAETMEUNvTEUTvSHEUAEvNJAPvSUEvKETvYAEMMAEvKUOMvSAPvMFEUTvNDEUXvMALEERIwEUTvSEUAEQ"),
   (0x1690D, "vYENvNJEUAEMvKEUOT MBUAEvNGKEURIvTUvGHAAvNGKYEEvFEUFEUAETvNDEEvMGBOFUMvLEUAEPvNDON"),
   (0x16919, "vMONIwGBEUNvPUUTvMGBIEEwFOvLUMvNSIEEPvMBAAvKWAETvNYETvTEUAENvSOTvYUWOQvKEUMvRAEM"),
   (0x16928, "vTEEEEvNGKEUAEQvMFEUAEvNSIEETvKEUPvPIPwEUTAEvNYUEvLETvNGGAAMvMFIEEvNGGWAENvYUOMvPAP"),
   (0x16936, "vYUOPvNDAMwTEUMvSUAEvKUNvNGGEUXxKIEEvTUOTvMEUNvKUQvNSUMvTEUNvMAENJETvNGGAPvLEUM"),
   (0x16945, "vNGGUOMwSHUTwJUEQvGHEUAEvKUvREN OLDvTAEwOQvNYIvRIIvLEEEEvMEEEEvMvSUUvMUvSHIIxEUX"),
   (0x16956, "vKYEEvNUvSHUvNTEEvPEEvNIvSHOQvPUQvMVOPvLOQvREN MUCHvTIvNTUUvMBAA SEVENvSAQvFAA"),
   (0x16966, "tE NDAPvTOONvMBEUMvLAPvVOMvLOONvPAAvSOMvRAQvNSHUOPwDUNvPUAEvTAMvNGKAvKPEUXvWUOvSEE"),
   (0x16977, "vNGGEUAETvPAAMvTOOvKUOPvLOMvNSHIEEwGOPvMAEMvNGKEUXxOQwSHUEvRIMGBAvNJEUXvPEEMvSAA"),
   (0x16986, "vNGGURAEvMGBAvGHEUXvNGKEUAEMwJAEMLIvMAPvLOOTvNGGEEEEwDIQvTAEN NTEUMvSETvPUM"),
   (0x16992, "vNDAA SOFTNESSwGGUAESHAE NYAMvYIEEvGHEUNvTUAEvYEUAEvPOvTUMAEvKEUAEvSUAENvTEUAEQ"),
   (0x1699D, "vVEUAEvWEUXvLAAMvPUvTAAQvGHAAMAEvNGEUREUTvSHEUAEQvMGBENwBEEvNZAQwKOMvGBETvTUMvKUET"),
   (0x169AC, "vYAPvNYI CLEAVERvYITvMFEUQvNDIAQvPIEEQvYUEQvLEUAEMvFUEvGBEUXvNGKUPvKETvMAEvNGKAAMI"),
   (0x169BA, "vGHETvFAvNTUMvPEUTvYEUMvNGGEUAEwYI BETWEENwZUQvPOONvMIEEvFUETvNAEvMUAEvGHEUAEvFU I"),
   (0x169C9, "vMVIvPUAQvNGKUMvKUTvPIETvNTAPvYEUAETvNGGUPvPA PEOPLEvFU CALLwOMvNJEEvAvTOQvOvIvLAQ"),
   (0x169DA, "vPA PLURALvTAAxQvNDAA MY HOUSEvSHIQvYEUXvNGUAEvYUAENwOQ SWIMMINGzCOVERwUQxNvKEUX"),
   (0x169E7, "vPEUXvNJEE EPOCHvPUEvWUEvFEEvVEEvLUvMIvREUXwAEvNGUAETxAvSHOyQvFU REMEDYvNAvPIvLOQvKO"),
   (0x169FA, "vMENwAxQvTEUvKIvMONvTENvFAQvGHOMtF KAvUvKUvEEvREEvTAEvNYIvLAvRIIxEEvMEEEEvTAAvNDAA"),
   (0x16A10, "wJAEMvMvSUUwHIIwIwEUXvKYEEwETvNUAEwUwJUAEvYOQvSHUvYAvNSHAvPEUXvNTEEvWUEvPEEvRUvNI"),
   (0x16A25, "vREUXvKENvNGKWAENxGAvSHOvPUAEvFOMvWAvLIwOQvKOvMBENvRENvMAwOwBAAvTETvKPAvSAMBAvVUEQ"),
   (0x16A40, "aMRO LETTER TAlNGIlYOlMIMlBAlDAlAlPHIlKHAIlHAOlDAIlCHUlKEAAElOLlMAEMlNINlPAlOOlOlRO"),
   (0x16A54, "lSHIlTHEAlEAlWAlElKOlLANmAlHAIlRIlTEK"),
   (0x16A60, "eDIGIT ZEROkONEkTWOlHREEkFOURlIVEkSIXlEVENkEIGHTkNINE"),
   (0x16A6E, "fANDAfOUBLE DANDAaTANGSA LETTER OZpCpQpXoAZpCpQpXoVZpCpQpXoEZpCpQpXoIZpCpQpXoUZpCpQ"),
   (0x16A87, "pXoAWZqCqQqXoUIZqCqQqXoFINAL NGoLONG UEXoSHORT UEZuAWXoUECqZqQqXpIUZrCrQrXoMZpCpQpX"),
   (0x16AA0, "oKApHAoGAoNGAoSAoYAoWAoPAoNYAoPHAoBAoMAoNAoHAoLAoHTAoTAoDAoRAoNHAoSHAoCAoTSAoGHA"),
   (0x16AB8, "oHTTAoTHAoXAoFAoDHAoCHAoZA"),
   (0x16AC0, "hDIGIT ZEROnONEnTWOoHREEnFOURoIVEnSIXoEVENnEIGHTnNINE"),
   (0x16AD0, "aBASSA VAH LETTER ENNIrKArSErFArMBErYIErGAHrDHIIrKPAHrJOrHWAHrWArZOrGBUrDOrCErUWUrTO"),
   (0x16AE2, "rBArVUrYEINrPArWADDArArOsOrUrEErErI"),
   (0x16AF0, "kCOMBINING HIGH TONEuLOW TONEuMID TONEuLOW-MID TONEuHIGH-LOW TONEkFULL STOP"),
   (0x16B00, "aPAHAWH HMONG VOWEL KEEBwVuIBvVuAUBwVuUBvVuEBvVuAIBwVuOOBwVuAWBwVuUABwVuOBvVuIABwV"),
   (0x16B16, "uABvVuWBvVuAABwVnCONSONANT VAUxNTSAUxLAUxHAUxNLAUxRAUxNKAUxQHAUxYAUxHLAUxMAUxCHAU"),
   (0x16B28, "xNCHAUxHNAUxPLHAUxNTHAUyAUxAUxXAUxCAUnMARK CIM TUBwSOwKESxHAVwSUAMwHOMwTAUM"),
   (0x16B37, "nSIGN VOS THOMxSHAB CEEBsCIM CHEEMsVOS THIABwFEEMsXYEEM NTXIVyRHOyTOVyFAIBsVOS SEEV"),
   (0x16B41, "sMEEJ SUABsVOS NRUAsIB YAMsXAUSsCIM TSOV ROG"),
   (0x16B50, "nDIGIT ZEROtONEtTWOuHREEtFOURuIVEtSIXuEVENtEIGHTtNINE"),
   (0x16B5B, "nNUMBER TENSuHUNDREDSuTEN THOUSANDSuMILLIONSuHUNDRED MILLIONSuTEN BILLIONSvRILLIONS"),
   (0x16B63, "nSIGN VOS LUBsXYOOsHLIsTHIRD-STAGE HLIsZWJ THAJsHNUBsNQIGsXIABsNTUJsAVsTXHEEJ CEEV"),
   (0x16B6E, "sMEEJ TSEEBsTAUsLOSsMUSsCIM HAIS LUS NTOG NTOGwCUAM TSHOOJwTXWVzb CHWVwPUB DAWB"),
   (0x16B77, "wNRES TOS"),
   (0x16B7D, "nCLAN SIGN TSHEEJxYEEGxLISyAUJxXYOOJxKOOxHAWJxMUASxTHOJySABxPHABxKHABxHAMxVAJxFAJ"),
   (0x16B8C, "xYAJxTSWBxKWMxVWJ"),
   (0x16E40, "aMEDEFAIDRIN CAPITAL LETTER MzcSzcVzcWzcATIUzcZzcKPzcPzcTzcGzcFzcIzcKzcAzcJzcEzcBzcC"),
   (0x16E52, "zcUzcYUzcLzcQzcHPzcNYzcXzcDzcOEzcNzcRzcOzcAIzcYmSMALL LETTER MzSzVzWzATIUzZzKPzPzTzG"),
   (0x16E6A, "zFzIzKzAzJzEzBzCzUzYUzLzQzHPzNYzXzDzOEzNzRzOzAIzYmDIGIT ZEROsONEsTWOtHREEsFOURtIVE"),
   (0x16E86, "sSIXtEVENsEIGHTsNINEmNUMBER TENtELEVENtTWELVEuHIRTEENtFOURTEENuIFTEENtSIXTEEN"),
   (0x16E91, "uEVENTEENtEIGHTEENtNINETEENmDIGIT ONE ALTERNATE FORMsTWO ALTERNATE FORM"),
   (0x16E96, "tHREE ALTERNATE FORMmCOMMAmFULL STOPmSYMBOL AIVAmEXCLAMATION OH"),
   (0x16F00, "bIAO LETTER PAmBAmYI PAmPLAmMAnHAmARCHAIC MAmFAmVAnFAmTAmDAmYI TTAqAmTTAmDDAmNAnHA"),
   (0x16F12, "mYI NNAmARCHAIC NAmNNAoHAmLAnYAnHAoYAmTLHAmDLHAmTLHYAmDLHYAmKAmGAmYI KAmQAnGAmNGAoHA"),
   (0x16F25, "mARCHAIC NGAmHAmXAmGHAoHAmTSSAmDZZAmNYAoHAmTSHAmDZHAmYI TSHApDZHAmREFORMED TSHAmSHA"),
   (0x16F34, "nSAmZHAnSHAmTSAmDZAmYI TSAmSAmZAnSAnZAoSAmARCHAIC ZZAmZZYAoSYAmWAmAHmHHAmBRImSYI"),
   (0x16F47, "mDZYImTEnSEmRTE"),
   (0x16F4F, "fSIGN CONSONANT MODIFIER BARfLETTER NASALIZATIONfSIGN ASPIRATIONkREFORMED VOICING"),
   (0x16F53, "tASPIRATIONfVOWEL SIGN ArArHHrNsGqOrOqWOqWqErNsGqOEYqIrAsNtGrOrErIrUrNGqUrAsNtGrUrEI"),
   (0x16F70, "rNGqYrIqAEsEqERRqROUNDED ERRqERqROUNDED ERqAIqEIqAUqOUqNrGqUOGqYUIqOGrERqVWqIGqEA"),
   (0x16F86, "qIONGqUI"),
   (0x16F8F, "fTONE RIGHTkTOP RIGHTkABOVEkBELOWfLETTER TONE-2r3r4r5r6r7r8mREFORMED TONE-1zb2zb4zb5"),
   (0x16F9E, "zb6zb8"),
   (0x16FE0, "aTANGUT ITERATION MARKaNUSHU ITERATION MARKaOLD CHINESE HOOK MARKmITERATION MARK"),
   (0x16FE4, "aKHITAN SMALL SCRIPT FILLER"),
   (0x16FF0, "aVIETNAMESE ALTERNATE READING MARK CAzjNHAY")]

end HtGate.Text.CharacterName
