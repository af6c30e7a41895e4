/-!
# Names of characters from U+17000 to U+1CFFF

The names in the order of code points, as strings of names that follow one another from a code point on.
The small letters before a name say how many characters it has in common with the name before it, which
are left out.
-/

namespace HtGate.Text.CharacterName

/-- The names from U+17000 to U+1CFFF. -/
def from17000 : List (Nat × String) :=
  [(0x18800, "aTANGUT COMPONENT-001t2t3t4t5t6t7t8t9s10t1t2t3t4t5t6t7t8t9s20t1t2t3t4t5t6t7t8t9s30t1"),
   (0x1881F, "t2t3t4t5t6t7t8t9s40t1t2t3t4t5t6t7t8t9s50t1t2t3t4t5t6t7t8t9s60t1t2t3t4t5t6t7t8t9s70t1"),
   (0x18847, "t2t3t4t5t6t7t8t9s80t1t2t3t4t5t6t7t8t9s90t1t2t3t4t5t6t7t8t9r100t1t2t3t4t5t6t7t8t9s10"),
   (0x1886E, "t1t2t3t4t5t6t7t8t9s20t1t2t3t4t5t6t7t8t9s30t1t2t3t4t5t6t7t8t9s40t1t2t3t4t5t6t7t8t9s50"),
   (0x18896, "t1t2t3t4t5t6t7t8t9s60t1t2t3t4t5t6t7t8t9s70t1t2t3t4t5t6t7t8t9s80t1t2t3t4t5t6t7t8t9s90"),
   (0x188BE, "t1t2t3t4t5t6t7t8t9r200t1t2t3t4t5t6t7t8t9s10t1t2t3t4t5t6t7t8t9s20t1t2t3t4t5t6t7t8t9"),
   (0x188E5, "s30t1t2t3t4t5t6t7t8t9s40t1t2t3t4t5t6t7t8t9s50t1t2t3t4t5t6t7t8t9s60t1t2t3t4t5t6t7t8t9"),
   (0x1890D, "s70t1t2t3t4t5t6t7t8t9s80t1t2t3t4t5t6t7t8t9s90t1t2t3t4t5t6t7t8t9r300t1t2t3t4t5t6t7t8"),
   (0x18934, "t9s10t1t2t3t4t5t6t7t8t9s20t1t2t3t4t5t6t7t8t9s30t1t2t3t4t5t6t7t8t9s40t1t2t3t4t5t6t7t8"),
   (0x1895C, "t9s50t1t2t3t4t5t6t7t8t9s60t1t2t3t4t5t6t7t8t9s70t1t2t3t4t5t6t7t8t9s80t1t2t3t4t5t6t7t8"),
   (0x18984, "t9s90t1t2t3t4t5t6t7t8t9r400t1t2t3t4t5t6t7t8t9s10t1t2t3t4t5t6t7t8t9s20t1t2t3t4t5t6t7"),
   (0x189AB, "t8t9s30t1t2t3t4t5t6t7t8t9s40t1t2t3t4t5t6t7t8t9s50t1t2t3t4t5t6t7t8t9s60t1t2t3t4t5t6t7"),
   (0x189D3, "t8t9s70t1t2t3t4t5t6t7t8t9s80t1t2t3t4t5t6t7t8t9s90t1t2t3t4t5t6t7t8t9r500t1t2t3t4t5t6"),
   (0x189FA, "t7t8t9s10t1t2t3t4t5t6t7t8t9s20t1t2t3t4t5t6t7t8t9s30t1t2t3t4t5t6t7t8t9s40t1t2t3t4t5t6"),
   (0x18A22, "t7t8t9s50t1t2t3t4t5t6t7t8t9s60t1t2t3t4t5t6t7t8t9s70t1t2t3t4t5t6t7t8t9s80t1t2t3t4t5t6"),
   (0x18A4A, "t7t8t9s90t1t2t3t4t5t6t7t8t9r600t1t2t3t4t5t6t7t8t9s10t1t2t3t4t5t6t7t8t9s20t1t2t3t4t5"),
   (0x18A71, "t6t7t8t9s30t1t2t3t4t5t6t7t8t9s40t1t2t3t4t5t6t7t8t9s50t1t2t3t4t5t6t7t8t9s60t1t2t3t4t5"),
   (0x18A99, "t6t7t8t9s70t1t2t3t4t5t6t7t8t9s80t1t2t3t4t5t6t7t8t9s90t1t2t3t4t5t6t7t8t9r700t1t2t3t4"),
   (0x18AC0, "t5t6t7t8t9s10t1t2t3t4t5t6t7t8t9s20t1t2t3t4t5t6t7t8t9s30t1t2t3t4t5t6t7t8t9s40t1t2t3t4"),
   (0x18AE8, "t5t6t7t8t9s50t1t2t3t4t5t6t7t8t9s60t1t2t3t4t5t6t7t8"),
   (0x18B00, "aKHITAN SMALL SCRIPT CHARACTER-18B00zj1zj2zj3zj4zj5zj6zj7zj8zj9zjAzjBzjCzjDzjEzjF"),
   (0x18B10, "zi10zj1zj2zj3zj4zj5zj6zj7zj8zj9zjAzjBzjCzjDzjEzjFzi20zj1zj2zj3zj4zj5zj6zj7zj8zj9zjA"),
   (0x18B2B, "zjBzjCzjDzjEzjFzi30zj1zj2zj3zj4zj5zj6zj7zj8zj9zjAzjBzjCzjDzjEzjFzi40zj1zj2zj3zj4zj5"),
   (0x18B46, "zj6zj7zj8zj9zjAzjBzjCzjDzjEzjFzi50zj1zj2zj3zj4zj5zj6zj7zj8zj9zjAzjBzjCzjDzjEzjFzi60"),
   (0x18B61, "zj1zj2zj3zj4zj5zj6zj7zj8zj9zjAzjBzjCzjDzjEzjFzi70zj1zj2zj3zj4zj5zj6zj7zj8zj9zjAzjB"),
   (0x18B7C, "zjCzjDzjEzjFzi80zj1zj2zj3zj4zj5zj6zj7zj8zj9zjAzjBzjCzjDzjEzjFzi90zj1zj2zj3zj4zj5zj6"),
   (0x18B97, "zj7zj8zj9zjAzjBzjCzjDzjEzjFziA0zj1zj2zj3zj4zj5zj6zj7zj8zj9zjAzjBzjCzjDzjEzjFziB0zj1"),
   (0x18BB2, "zj2zj3zj4zj5zj6zj7zj8zj9zjAzjBzjCzjDzjEzjFziC0zj1zj2zj3zj4zj5zj6zj7zj8zj9zjAzjBzjC"),
   (0x18BCD, "zjDzjEzjFziD0zj1zj2zj3zj4zj5zj6zj7zj8zj9zjAzjBzjCzjDzjEzjFziE0zj1zj2zj3zj4zj5zj6zj7"),
   (0x18BE8, "zj8zj9zjAzjBzjCzjDzjEzjFziF0zj1zj2zj3zj4zj5zj6zj7zj8zj9zjAzjBzjCzjDzjEzjFzhC00zj1zj2"),
   (0x18C03, "zj3zj4zj5zj6zj7zj8zj9zjAzjBzjCzjDzjEzjFzi10zj1zj2zj3zj4zj5zj6zj7zj8zj9zjAzjBzjCzjD"),
   (0x18C1E, "zjEzjFzi20zj1zj2zj3zj4zj5zj6zj7zj8zj9zjAzjBzjCzjDzjEzjFzi30zj1zj2zj3zj4zj5zj6zj7zj8"),
   (0x18C39, "zj9zjAzjBzjCzjDzjEzjFzi40zj1zj2zj3zj4zj5zj6zj7zj8zj9zjAzjBzjCzjDzjEzjFzi50zj1zj2zj3"),
   (0x18C54, "zj4zj5zj6zj7zj8zj9zjAzjBzjCzjDzjEzjFzi60zj1zj2zj3zj4zj5zj6zj7zj8zj9zjAzjBzjCzjDzjE"),
   (0x18C6F, "zjFzi70zj1zj2zj3zj4zj5zj6zj7zj8zj9zjAzjBzjCzjDzjEzjFzi80zj1zj2zj3zj4zj5zj6zj7zj8zj9"),
   (0x18C8A, "zjAzjBzjCzjDzjEzjFzi90zj1zj2zj3zj4zj5zj6zj7zj8zj9zjAzjBzjCzjDzjEzjFziA0zj1zj2zj3zj4"),
   (0x18CA5, "zj5zj6zj7zj8zj9zjAzjBzjCzjDzjEzjFziB0zj1zj2zj3zj4zj5zj6zj7zj8zj9zjAzjBzjCzjDzjEzjF"),
   (0x18CC0, "ziC0zj1zj2zj3zj4zj5zj6zj7zj8zj9zjAzjBzjCzjDzjEzjFziD0zj1zj2zj3zj4zj5"),
   (0x1AFF0, "bATAKANA LETTER MINNAN TONE-2zd3zd4zd5"),
   (0x1AFF5, "zd7zd8xNASALIZED TONE-1zn2zn3zn4zn5"),
   (0x1AFFD, "zn7zn8"),
   (0x1B000, "qARCHAIC EaHIRAGANA LETTER ARCHAIC YEbENTAIGANA LETTER A-1u2u3uWOsI-1u2u3u4sU-1u2u3"),
   (0x1B00D, "u4u5sE-2u3u4u5u6sO-1u2u3sKA-1v2v3v4v5v6v7v8v9v10w1vKEtI-1v2v3v4v5v6v7v8tU-1v2v3v4v5"),
   (0x1B030, "v6v7tE-1v2v3v4v5v6tO-1v2v3vKIsSA-1v2v3v4v5v6v7v8tI-1v2v3v4v5v6tU-1v2v3v4v5v6v7v8tE-1"),
   (0x1B053, "v2v3v4v5tO-1v2v3v4v5v6v7sTA-1v2v3v4tI-1v2v3v4v5v6v7tU-1v2v3v4vTOtE-1v2v3v4v5v6v7v8v9"),
   (0x1B077, "tO-1v2v3v4v5v6vRAsNA-1v2v3v4v5v6v7v8v9tI-1v2v3v4v5v6v7vTEtU-1v2v3tE-1v2v3v4v5v6vKO"),
   (0x1B099, "tO-1v2v3v4v5sHA-1v2v3v4v5v6v7v8v9v10w1tI-1v2v3v4v5v6v7tU-1v2v3tE-1v2v3v4v5v6v7tO-1v2"),
   (0x1B0BC, "v3v4v5v6v7v8sMA-1v2v3v4v5v6v7tI-1v2v3v4v5v6v7tU-1v2v3v4tE-1v2vMAtO-1v2v3v4v5v6sYA-1"),
   (0x1B0DE, "v2v3v4v5vYOtU-1v2v3v4tO-1v2v3v4v5v6sRA-1v2v3v4tI-1v2v3v4v5v6v7tU-1v2v3v4v5v6tE-1v2v3"),
   (0x1B101, "v4tO-1v2v3v4v5v6sWA-1v2v3v4v5tI-1v2v3v4v5tE-1v2v3v4tO-1v2v3v4v5v6v7sN-MU-MO-1zb2"),
   (0x1B11F, "bIRAGANA LETTER ARCHAIC WUaKATAKANA LETTER ARCHAIC YIzEyWU"),
   (0x1B150, "aHIRAGANA LETTER SMALL WIxExO"),
   (0x1B164, "aKATAKANA LETTER SMALL WIxExOwN"),
   (0x1B170, "aNUSHU CHARACTER-1B170u1u2u3u4u5u6u7u8u9uAuBuCuDuEuFt80u1u2u3u4u5u6u7u8u9uAuBuCuDuE"),
   (0x1B18F, "uFt90u1u2u3u4u5u6u7u8u9uAuBuCuDuEuFtA0u1u2u3u4u5u6u7u8u9uAuBuCuDuEuFtB0u1u2u3u4u5u6"),
   (0x1B1B7, "u7u8u9uAuBuCuDuEuFtC0u1u2u3u4u5u6u7u8u9uAuBuCuDuEuFtD0u1u2u3u4u5u6u7u8u9uAuBuCuDuEuF"),
   (0x1B1E0, "tE0u1u2u3u4u5u6u7u8u9uAuBuCuDuEuFtF0u1u2u3u4u5u6u7u8u9uAuBuCuDuEuFs200u1u2u3u4u5u6u7"),
   (0x1B208, "u8u9uAuBuCuDuEuFt10u1u2u3u4u5u6u7u8u9uAuBuCuDuEuFt20u1u2u3u4u5u6u7u8u9uAuBuCuDuEuF"),
   (0x1B230, "t30u1u2u3u4u5u6u7u8u9uAuBuCuDuEuFt40u1u2u3u4u5u6u7u8u9uAuBuCuDuEuFt50u1u2u3u4u5u6u7"),
   (0x1B258, "u8u9uAuBuCuDuEuFt60u1u2u3u4u5u6u7u8u9uAuBuCuDuEuFt70u1u2u3u4u5u6u7u8u9uAuBuCuDuEuF"),
   (0x1B280, "t80u1u2u3u4u5u6u7u8u9uAuBuCuDuEuFt90u1u2u3u4u5u6u7u8u9uAuBuCuDuEuFtA0u1u2u3u4u5u6u7"),
   (0x1B2A8, "u8u9uAuBuCuDuEuFtB0u1u2u3u4u5u6u7u8u9uAuBuCuDuEuFtC0u1u2u3u4u5u6u7u8u9uAuBuCuDuEuF"),
   (0x1B2D0, "tD0u1u2u3u4u5u6u7u8u9uAuBuCuDuEuFtE0u1u2u3u4u5u6u7u8u9uAuBuCuDuEuFtF0u1u2u3u4u5u6u7"),
   (0x1B2F8, "u8u9uAuB"),
   (0x1BC00, "aDUPLOYAN LETTER HqXqPqTqFqKqLqBqDqVqGqRqP NqD SqF NqK MqR SqTHqSLOAN DHqDHqKK"),
   (0x1BC15, "qSLOAN JqHLqLHqRHqMqNqJqSqM NqN MqJ MqS JqM WITH DOTqN WITH DOTqJ WITH DOT"),
   (0x1BC24, "zbS INSIDE AND ABOVEqS WITH DOTzb BELOWqM SqN SqJ SqS SqM N SqN M SqJ M SqS J S"),
   (0x1BC2F, "qJ S WITH DOTsNt SqS Tt RsPt RqT SsR SqWrHr RqS NsMqK R SqG R SqS Kt RqAqSLOAN OWqOA"),
   (0x1BC44, "qOqAOUqIqEqIEqSHORT IqUIqEEqSLOAN EHqROMANIAN IqSLOAN EEqLONG IqYEqUqEUqXWqU N"),
   (0x1BC55, "qLONG UqROMANIAN UqUHqSLOAN UqOOHrWrUqWArOrIrEIrOWqNASAL UwOwIwAqPERNIN ANyM"),
   (0x1BC67, "qSLOAN ENwANwONqVOCALIC M"),
   (0x1BC70, "jAFFIX LEFT HORIZONTAL SECANTpMID HORIZONTAL SECANTpRIGHT HORIZONTAL SECANT"),
   (0x1BC73, "pLOW VERTICAL SECANTpMID VERTICAL SECANTpHIGH VERTICAL SECANTpATTACHED SECANT"),
   (0x1BC77, "yLEFT-TO-RIGHT SECANTyTANGENTzbILyE HOOKyI HOOKyTANGENT HOOK"),
   (0x1BC80, "pHIGH ACUTEuTIGHT ACUTEuGRAVEuLONG GRAVEuDOTuCIRCLEuLINEuWAVEuVERTICAL"),
   (0x1BC90, "pLOW ACUTEtTIGHT ACUTEtGRAVEtLONG GRAVEtDOTtCIRCLEtLINEtWAVEtVERTICALtARROW"),
   (0x1BC9C, "jSIGN O WITH CROSSjTHICK LETTER SELECTORjDOUBLE MARKjPUNCTUATION CHINOOK FULL STOP"),
   (0x1BCA0, "aSHORTHAND FORMAT LETTER OVERLAPrCONTINUING OVERLAPrDOWN STEPrUP STEP"),
   (0x1CF00, "aZNAMENNY COMBINING MARK GORAZDO NIZKO S KRYZHEM ON LEFTyNIZKO S KRYZHEM ON LEFT"),
   (0x1CF02, "yTSATA ON LEFTyGORAZDO NIZKO ON LEFTyNIZKO ON LEFTySREDNE ON LEFT"),
   (0x1CF06, "yMALO POVYSHE ON LEFTyPOVYSHE ON LEFTyVYSOKO ON LEFTyMALO POVYSHE S KHOKHLOM ON LEFT"),
   (0x1CF0A, "yPOVYSHE S KHOKHLOM ON LEFTyVYSOKO S KHOKHLOM ON LEFT"),
   (0x1CF0C, "yGORAZDO NIZKO S KRYZHEM ON RIGHTyNIZKO S KRYZHEM ON RIGHTyTSATA ON RIGHT"),
   (0x1CF0F, "yGORAZDO NIZKO ON RIGHTyNIZKO ON RIGHTySREDNE ON RIGHTyMALO POVYSHE ON RIGHT"),
   (0x1CF13, "yPOVYSHE ON RIGHTyVYSOKO ON RIGHTyMALO POVYSHE S KHOKHLOM ON RIGHT"),
   (0x1CF16, "yPOVYSHE S KHOKHLOM ON RIGHTyVYSOKO S KHOKHLOM ON RIGHTyTSATA S KRYZHEM"),
   (0x1CF19, "yMALO POVYSHE S KRYZHEMySTRANNO MALO POVYSHEyPOVYSHE S KRYZHEMziTRANNO"),
   (0x1CF1D, "yVYSOKO S KRYZHEMyMALO POVYSHE STRANNOyGORAZDO VYSOKOyZELOyONyRAVNOyTIKHAYAyBORZAYA"),
   (0x1CF25, "yUDARKAyPODVERTKAyLOMKAyKUPNAYAzACHKAyZEVOKySKOBAyRAZSEKAyKRYZH ON LEFT"),
   (0x1CF30, "tTONAL RANGE MARK MRACHNOzlSVETLOzlTRESVETLOtMARK ZADERZHKAyDEMESTVENNY ZADERZHKA"),
   (0x1CF35, "yOTSECHKAyPODCHASHIEzj WITH VERTICAL STROKEyCHASHKAzg POLNAYAyOBLACHKO"),
   (0x1CF3B, "ySOROCHYA NOZHKAyTOCHKAyDVOETOCHIEtATTACHING VERTICAL OMETtMARK CURVED OMETyKRYZH"),
   (0x1CF41, "tLOWER TONAL RANGE INDICATORjPRIZNAK MODIFIER LEVEL-2zh3zbDIRECTION FLIPzbKRYZHzbROG"),
   (0x1CF50, "jNEUME KRYUKu TIKHYpPARAKLITpDVA V CHELNUpKLYUCHpZANOZHEKpSTOPITSAx S OCHKOM"),
   (0x1CF58, "pPEREVODKAy NEPOSTOYANNAYApSTOPITSA WITH SOROCHYA NOZHKApCHELYUSTKApPALKApZAPYATAYA"),
   (0x1CF5E, "pGOLUBCHIK BORZYzTIKHYzMRACHNYzSVETLYzTRESVETLYpVRAKHIYA PROSTAYAyMRACHNAYAySVETLAYA"),
   (0x1CF66, "yTRESVETLAYAyKLYUCHEVAYA PROSTAYAzlMRACHNAYAzlSVETLAYAzlTRESVETLAYApDOUBLE ZAPYATAYA"),
   (0x1CF6C, "pREVERSED CHELYUSTKApDERBITSApKHAMILOpCHASHKApPODCHASHIEpSKAMEYTSA MRACHNAYA"),
   (0x1CF72, "zSVETLAYAzTRESVETLAYAzbIKHAYApDEMESTVENNY KLYUCHpSKAMEYTSA KLYUCHEVAYA SVETLAYA"),
   (0x1CF77, "zhNEPOSTOYANNAYAzhVAYA TIKHAYAzDVOECHELNAYA PROSTAYAznSVETLAYAznNEPOSTOYANNAYA"),
   (0x1CF7C, "znKLYUCHEVAYAqLOZHITIEy S ZAPYATOYzZAKRYTOEzS KRYZHEMpKRYZHpROGpFITApKOBYLApZMEYTSA"),
   (0x1CF86, "pSTATYAv S ZAPYATOYyKRYZHEMyZAPYATOY I KRYZHEMyKRYZHEM I ZAPYATOYwZAKRYTAYA"),
   (0x1CF8C, "zg S ZAPYATOYwS ROGOMyDVUMYA ZAPYATYMIyZAPYATOY I PODCHASHIEMpPOLKULIZMY"),
   (0x1CF91, "pSTATYA NEPOSTOYANNAYArRELA PROSTAYAwMRACHNOTIKHAYAwKRYZHEVAYAwPOLUPOVODNAYAyVODNAYA"),
   (0x1CF97, "wNEPOSTOYANNAYAwKLYUCHEPOVODNAYAzeNEPOSTOYANNAYAwTIKHAYA PUTNAYAwDVOECHELNAYA"),
   (0x1CF9C, "zgOKRYZHEVAYAzhPOVODNAYAzgAYA KLYUCHEVAYAzgOPOVODNAYA KLYUCHEVAYA"),
   (0x1CFA0, "wGROMNAYA WITH SINGLE ZAPYATAYAzbOPOVODNAYA WITH SINGLE ZAPYATAYAzbNAYAzbOPOVODNAYA"),
   (0x1CFA4, "zl WITH DOUBLE ZAPYATAYAzcKRYZHEVAYAzm POVODNAYApMECHIKv POVODNYwKLYUCHEVOYzePOVODNY"),
   (0x1CFAB, "zeNEPOSTOYANNYpSTRELA TRYASOGLASNAYAzdPOVODNAYAzdSTRELNAYApOSOKAu SVETLAYA"),
   (0x1CFB1, "vTRESVETLAYAvKRYUKOVAYA SVETLAYAwLYUCHEVAYA SVETLAYAziNEPOSTOYANNAYA"),
   (0x1CFB5, "pSTRELA KRYUKOVAYAzh POVODNAYAziGROMNAYA WITH SINGLE ZAPYATAYA"),
   (0x1CFB8, "zmOPOVODNAYA WITH SINGLE ZAPYATAYAzmNAYAzmOPOVODNAYAzw WITH DOUBLE ZAPYATAYA"),
   (0x1CFBC, "znKRYZHEVAYAzx POVODNAYAziTRYASKApKUFISMApOBLAKOpDUDApNEMKApPAUK")]

end HtGate.Text.CharacterName
