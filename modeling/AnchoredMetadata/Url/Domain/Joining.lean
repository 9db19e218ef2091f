import AnchoredMetadata.Text.Composition

/-!
# Joiners in domain names

The two invisible characters that join letters or keep them apart are allowed in
a domain name only where they change how it looks.
-/

namespace AnchoredMetadata.Url

/-- Characters that join the letter before them (0), after them (1) or on both sides (2), and
those that are passed over (3). -/
def joiningLines : List String := [
  "bdOeHDkPGDkDbSDBADBBDBBDBADcUKDFACBDBAACAABAACAABAECADBAMCBGCAABABCAUDOBCAADACBFOCARBAbLCAAB",
  "ABCAIBAACAABAACAABABCABBBABAGDCFDCBDBDDABBKCCCACQABAADACCAEBADCAABAICAABAACAABAACAABABCAABAb",
  "ADCABAKCACBAOCABBADCAABAACABBACCABBAFCbMKDZbGCAIDJADYDDBIDBCDBEDSABAECABBAACAABAJCAABAACACBA",
  "CDEACBDCBABAACAZBDACCECAABJHDAJCACBBABABCABBAFCAABAOCBcEDcDADBADEHDEADDGDKBDbDADcGADEDDIADUB",
  "DbAEDcFADEQDbEBDDADLBDcFADEHDEADUBDWHDcGADCADBDDIJDLBDbEADcJADMADbYADDADcDADBCDFQDLBDbDADcGA",
  "DCADGADFBDUBDbCBDcFBDEDDIADUBDbDADcUADHEDdMADCGDMHDdUADCIDLGDcVBDbBADBADBADcDNDBEDBBDFbVDJAD",
  "dYDDBFDBBDCBDZBDECDQDDNADCBDGADPADbbBCDbkKCDbDBDbEBDbEBDcPGDIADCKDJADbPACYdKCMBDAbHCAADAACeN",
  "CDEBDJADGCDiLBDCADcGADBIDBADCHDGMDbWbEDbXDDbWADBEDBADFADbOIDMBDbGDDCBDBCDcEADBBDDADBCDcGHDCB",
  "DfWCDBMDBGDEADGADDBDhQcLDbbSbGDeoCCDfLADdSbFDvIDDeDBDbsqEDDBJDbGBDdCBDkMADDADEADZBDFADTbXCAA",
  "AdDBDbARDNADbMHDZKDbUCDbWADCDDCBDbNADcPFDCBDCBDMADIADbVADbZADBCDCBDFBDBADbQBDIADjEADCADEADbd",
  "zSADbdPPDblLADiSADfTEDcmGODbOHDeYECAABBABBBBCAAAEBADCAAAAECAABACCAABCABABDEDCAABfOACAABAACAC",
  "BACCAABABCAABAACABBAACAABXDBABCmZAAAbGCAABAACADDoXBDdCCDbWCCAABAQCBKDACCAABbBDCABBALCADDbQAC",
  "BBCACBBACABBABCAABABCBACABBAACEABAACAAAcBADcCODbPADCBDKCDbXDDCBDHADcJCDbKEDBHDcKADMBDcAIDKDD",
  "CADdRCDCADBBDGADCADgBADDHDVBDcFBDDADbLODhNHDCCDBADXADdGFDBADEBDBBDjEDDGBDBBDbBBDdHHDCADBBDeC",
  "ADBADCFDBADdXCDCDDBEDjZIDBBDjWBDBADEADfOHDEADbGJDbOFDCDDIADJFDCCDbUMDBBDpQNDBADdEVDCGDBBDBBD",
  "eSUDBADcUBDDADBADnJBDLBDcAEDFADBADhyRADGODurQEDcHGDboIADcLDDdDADbdbKBDgyZcSDuYCDRHDCGDbEDDfS",
  "CDcyDcCDEbXDIADOADWUDcaIfNDgEGDoLADcJDDtODDbmEGDcXbHCAHD"]

/-- The table of the characters that join. -/
def joinings : List Text.ValuedRange := Text.rangesOfLines joiningLines

/-- Whether a character joins the one after it. -/
def joinsNext (c : Char) : Bool :=
  Text.valueIn? joinings c = some 0 || Text.valueIn? joinings c = some 2

/-- Whether a character joins the one before it. -/
def joinsPrevious (c : Char) : Bool :=
  Text.valueIn? joinings c = some 1 || Text.valueIn? joinings c = some 2

/-- Whether joining passes over a character. -/
def isPassedOver (c : Char) : Bool := Text.valueIn? joinings c = some 3

/-- Whether a character is a virama. -/
def isVirama (c : Char) : Bool := Text.combiningClass c = 9

/-- Keeps letters apart. -/
def nonJoiner : Char := '\u200C'

/-- Joins letters. -/
def joiner : Char := '\u200D'

/-- Whether each joiner stands well, given the characters before it, latest first. A virama
before it is enough; a non-joiner may also stand between two letters that would join. -/
def joinersStandWell (before : List Char) : List Char → Bool
  | [] => true
  | c :: cs =>
    let afterVirama := before.head?.any isVirama
    let betweenLetters :=
      (before.dropWhile isPassedOver).head?.any joinsNext &&
        (cs.dropWhile isPassedOver).head?.any joinsPrevious
    (if c = nonJoiner then afterVirama || betweenLetters
      else if c = joiner then afterVirama
      else true) &&
      joinersStandWell (c :: before) cs

end AnchoredMetadata.Url
