/-!
# Characters that a domain name does not keep

The mapping table of internationalized domain names without the characters that
stand for themselves, in compact text.
-/

namespace AnchoredMetadata.Url

/-- The ranges of characters that are refused, dropped or replaced, with what is done. -/
def treatmentLines : List String := [
  "cNZDbGbLbFAAAFBbGHAFCbGbdWBAFBdTCABBAFCbGbdSCBCeYABFCbGbdPBbkUCCFCbGbfBBbXBeHBCFDbXmfScADbXm",
  "fSbYDbZmfScABWDbGBGDbGbHbVEAAFCeBbdVBBFCeBeCCeBeCADEBFEABFCeEhBCeEhBAHEAAFCbaYeGAbTEAAFBjVAF",
  "EAAFBeLBAFBwXADEABFBwYBpCBBDhXAADBCDFBsJBxDBxFBpMBBFBxKBxNBCFBxTBxSBpTDBFBxZByCBAFByFAFEABFB",
  "yQBqIBAFByTCADBBBFByYBqQBBDiJADEABFBzIBqZDADBHIFCdWoSCdWoSCdWoSCeEeCCeEeCCeEeCCeGeCCeGeCCeGe",
  "CAPEBREBDFCdWeSCdWeSCdWeSBtHBBFBpPBrFAbNEAAFBpYBREGBFBqvDBwABBFBpUBqvECADBBCFBoUByZBzCAJEdSI",
  "FBeABxQBeCBeKByJByLByRBePBeRbFFFCbGbdUCbGbdVCbGbdYCbGbfCCbGbdRCbGbdZCEFBxNBeEBeLBeQBzLdNBCcM",
  "BCFBbeHCbdWbdPBbkRJABbGDEAAFBbaVBADBBBAAAFCbGbkRDBFBcHBbmXADAAGFCbGbdPDbGbdWbdPBbkEBhBBbkFBb",
  "kGBbkHAAAAAFBblKAAAABDcLBQDbGAAAAIDbGbJHFBblVBbkKBbkQBblDBblLBblJBblEBbkYBXEACFBbkSBbkZBblBB",
  "BFBbkQBbkNBADBBBFBblBBbnFCCCfAAPDdCAbFDbGbWbHEIcBEAAFBbvJANEBdREAAAAbLDbWABAbUAFCcbDccGDBADA",
  "AcDHAbBDAGQAWAAdKDFCciPclOCcjWclOCcoTclOCcjYclOdWAAbWBAcHBAdXNAcHBAbXBAPAAbCBABAALEAbGGAcXAA",
  "eNHFCdlLdmYCdlMdmYCdlNdmYCdlSdmYCdlXdmYCdlYdmYCdmHdmYCdmLdmYbKAAIBACBAWAAHAABCAEBAJBACBAEHAB",
  "DAABFCdqVdrWCdqWdrWAAAAAFCdrJdrWEBAZBADAAGDACBAWAAHAABAFCdwKdwUAAABAFCdwQdwUAAACBABAAFDACBAD",
  "CABGAACFCdvIdwUCdvJdwUCdvOdwUBAAAAFCdwDdwUAGARJADAAJAADAAWAAHAACAAFBAKAADAADBABOAEBAMGAHAADA",
  "AIBACBAWAAHAACAAFBAJBACBADGADDAABFCefPegQCefQegQAAAFBASJACAAGCADAAECACAABAACCACCADCAMDAFCADA",
  "AEBABFABNAVEANAADAAXAAQBAJAADAAEGACAADAACBAEBAKGAWAADAAXAAKAAFBAJAADAAEGACEADAAEBAKAADLANAAD",
  "AAbZAADAAGDAQBAbAAADAASCAYAAJAABBAHCABDAGAABAAIFAKBADLAbYAFCfkVfjUHDAbDbKACAABAAFAAYAABAAMAF",
  "CfpTfoSKBAFAABAAHAAKBAABFCfoLfnTCfoLfoBCbFAMAFBfsDcCAFCfuGfyTEAAEAFCfuQfyTEAFCfuVfyTEAFCfvAf",
  "yTEAFCfvFfyTMAFCfuEfyRDDACAFCfwBfwCBEFCfwBfwECfyOfwQDfyOfwBfwQCfyPfwQDfyPfwBfwQHAFCfwBfwQRAF",
  "CfxIfyTEAAEAFCfxSfyTEAFCfxXfyTEAFCfyCfyTEAFCfyHfyTMAFCfxGfyRDAAPAANbKAgEbLDktKAAAAAFBrcPAEAA",
  "AFBrcVABAbSAFBgkAdUBBiYAAEBAHAABAAEBAbPAAEBAbHAAEBAHAABAAEBAPAAcFAAEBAcPBAbGCAbAFAdIBAAFCIAB",
  "AyQAAbCCAdLGAWIAYIAULANAADAACLAcABBbOBAKFAKFALEBKFAdLGAbREAcSJAbFAAMDAMDABCAbQBAFKAbSDAbAFAL",
  "CAcKBAcNAAbDBALFAKFAOBAbUBAMTAcZAAgKHAcICAPCAbZJFBbpIBbpKBbpUBbpXBbpYBbpYBbqGBbrFBckzJBkvABE",
  "AAbQCelSABAACCelSIHAbREAbSCFBdTBiWBdUBBCkxOAAFBsJAHCkxOBRFBeHBvBBeIBeKBeMBeNBePBdTBwUBwVBkzQ",
  "BdUBdWBdXBxDBxFBxGBdZBbBFBeDBeFBmTBeHBwYBlaKBlaLBeIBeMBeNBlaRBxZBeOBlaZBbkKBbkLBbkMBblEBblFB",
  "eBBeKBeNBeOBbkKBbkLBbkZBblEBblFNAFBbpTbISFBwWBdVBwZBjGBxGBdYBxJBxLBxPBxSBxTBxUBleHBzTBxXBleR",
  "BzVByBByAADCkiEANFByIBySByTBqLByZBzABlaQBzBBzCBeSBzGBzHBzIBbkQcMfTEEBFCdTbbABlnDCAFBiPBdREIH",
  "CIGBAAFCIABAIHCIIHCIGBAAFCIABAIAAAAFBlwJAAAAAFBlwLAAAAAFBlwNAAAAAFBlwPIHCIBAFBbkEBAFBbkFBAFB",
  "bkGBAFBbkHBAFBblKBAFBblLBAFBblMABAAbVFCltGbkRCltHbkRCltIbkRCltJbkRCltKbkRCltLbkRCltMbkRCltNb",
  "kRCltGbkRCltHbkRCltIbkRCltJbkRCltKbkRCltLbkRCltMbkRCltNbkRCluMbkRCluNbkRCluObkRCluPbkRCluQbk",
  "RCluRbkRCluSbkRCluTbkRCluMbkRCluNbkRCluObkRCluPbkRCluQbkRCluRbkRCluSbkRCluTbkRClwYbkRClwZbkR",
  "ClxAbkRClxBbkRClxCbkRClxDbkRClxEbkRClxFbkRClwYbkRClwZbkRClxAbkRClxBbkRClxCbkRClxDbkRClxEbkRC",
  "lxFbkRCCFClxObkRCbkJbkRCbkEbkRAAABNFCmaGbkRBmaABmaBBlxOBbkECbkJbkRCbGbeHBbkRCbGbeHCbGbgCDbGb",
  "dWbgCClxSbkRCbkPbkRCbkGbkRAAABIFCmaWbkRBlxQBbkFBlxSBbkGCbkPbkRDbGbeHbdODbGbeHbdPDbGbeHbgCDAF",
  "BbjCABACBCIABFBlxUBbkHAAAACFDbGbeIbdODbGbeIbdPDbGbeIbgCDAFBbkIEBCIAFFBlxYBblLBmcBDbGbdWbdODb",
  "GbdWbdPBdSABAACFClyAbkRCblHbkRCblMbkRAAABHFCmcSbkRBlxWBblKBlyABblMCblHbkRCbGbdPCbGbeIAAAAKFB",
  "bGBbGBbGBbGBbGBbGBbGBbGBbGBbGBbGAABCBABAFBmdSFAFCbGbfNMCABGAAAFBbGDBFCmfAmfADmfAmfAmfABBFCmf",
  "DmfDDmfDmfDmfDEAFCbHbHBAFCbGbdTICFCcLcLCcLbHCbHcLNAFEmfAmfAmfAmfAHAFBbGAEBAEAAFBABFBbWBeBABA",
  "AFCmfOAFFBbRBmxMBcJBbOBbPBeGAJCmgEAEFBbRBmxMBcJBbOBbPAAAAFFBdTBdXBeHBeQBxDBeAADCmeTACFBeIBeL",
  "BeMACAIAFCeKeLZNAbHOAADFDdTbVdVDdTbVeLBdVCgUdVBCFDdVbVeHDdVbVeNBxFBKFCgUdYBdZBeABeABeABeABlJ",
  "BeBBeBBeEBeEBBFBeGCeGeHCCCmjPABFBeKBeKCCFCeLeFDeMdXeECeMeFBAFBeSBAFBblHBAFBeSBDFBeDBiVBdUBdV",
  "BFFBdXBdXBdYBmpYBeFBeHADCkjTAAFBeBBFFDdYdTeQBbkYBbkLBbkLBbkYBmxLEEFBdWBdWBdXBeBBeCGbVFDbXmfS",
  "cDDbXmfScFEbXmfSbXbWDbXmfSbZDbYmfSbZDbXmfScBDbYmfScBDbZmfScBDcAmfScBDbXmfScCDcBmfScCDbXmfScE",
  "DbZmfScEDcBmfScEDcDmfScECbXmfSBeBCeBeBDeBeBeBCeBeOBeOCeOeBDeOeBeBEeOeBeBeBCeBeQBeQCeQeBDeQeB",
  "eBBeEBdVBdWBeFBeBCeBeBDeBeBeBCeBeOBeOCeOeBDeOeBeBEeOeBeBeBCeBeQBeQCeQeBDeQeBeBBeEBdVBdWBeFDA",
  "DBFAFDbWmfSbZCDAgABFCmyLmyLDmyLmyLmyLBBFCmyOmyODmyOmyOmyOjOBDewTjVVALUAAICnsHAbEFCbXbWCbXbXC",
  "bXbYCbXbZCbXcACbXcBCbXcCCbXcDCbXcECbXcFCbYbWDbObXbPDbObYbPDbObZbPDbOcAbPDbOcBbPDbOcCbPDbOcDb",
  "PDbOcEbPDbOcFbPEbObXbWbPEbObXbXbPEbObXbYbPEbObXbZbPEbObXcAbPEbObXcBbPEbObXcCbPEbObXcDbPEbObX",
  "cEbPEbObXcFbPEbObYbWbPATAAZFDbOdTbPDbOdUbPDbOdVbPDbOdWbPDbOdXbPDbOdYbPDbOdZbPDbOeAbPDbOeBbPD",
  "bOeCbPDbOeDbPDbOeEbPDbOeFbPDbOeGbPDbOeHbPDbOeIbPDbOeJbPDbOeKbPDbOeLbPDbOeMbPDbOeNbPDbOeObPDb",
  "OePbPDbOeQbPDbOeRbPDbOeSbPAZCntTAZCnuTAAFBbWbyNAFEmyLmyLmyLmyLdZCFDcGcGcJCcJcJDcJcJcJdXAFCqg",
  "BbfSfVBAfIbVDbWbWADBBCFBxVBleJByNCFEADFBwVByBBwUBwWBADBCADBGDFBeCBeOBwDBwEAdVEHDEDADBBEAbTAA",
  "BEABBAcEGAAAFBreVBNAYIAHAAHAAHAAHAAHAAHAAHAAHAAeWbHAbAAAEAFBbovLdFAFBcilRALAAiFFBbdoABbdpOBb",
  "dqCBbdqLBbdrLBbdtDBbdtKBbduEBbdvEBbetZBbevLBbevRBbewOBbexIBbeyDBbfaEBbfaZBbfbKBbfhJBbfkZBbfm",
  "BBbfmGBbfnKBbfnTBbfoUBbfpHBbfqGBbfsGBbfsYBbftZBbgxBBbgzVBbhrNBbhsKBbhsSBbhtDBbhtVBbhwTBbipCB",
  "biqYBbivOBbiwLBbixEBbiyABbjaCBbjaFBbjoDBbjoNBbjoZBbjpMBbjtYBbjuGBbjuLBbjyYBbjzIBbjzVBbkaDBbk",
  "cMBbkdDBbkdVBbkgXBbldGBblfABblfVBbmiHBbmiMBbmlRBbmmHBbmmUBbmnPBbmpCBbmpHBbmzOBbnaMBbnbSBbooU",
  "BborIBbosFBbouLBbovJBbovSBbovZBboxZBboyEBbozKBbqoXBbrgCBbrgOBbrgTBbrgXBbrhFBbrhXBbrhZBbrlCBb",
  "rtKBbrtPBbsgQBbshABbsiYBbsjFBbsjOBbsjWBbsnJBbsnQBbswKBbswRBbsyOBbszFBbtbABbtkDBbtkKBbtlBBbtx",
  "QBbucMBbucSBbujSBbunBBbuoVBbvdJBbviMBbweOBbwfPBbwhUBbwjTBbwmJBbwmUBbwnABbwoHBbwrFBbwrPBbxeXB",
  "bxfEBbxfNBbxfWBbxgMBbxhBBbxhFBbxkGBbxkKBbxkQBbywJBbyxNBbzpOBbzqABbzqXBcabUBcacHBcafABcagUBcb",
  "cPBcbdEBcbdTBcbfCBcbgNBcboEBcboQBcbrFBccaTBccbYBccjZBcckUBcckZBcctLBcdaNBcdfIBcdfOBcdfTBcepR",
  "BceqABcewABcfbYBcfcBBcfdWBcfhXBcfiKBcfiOBcfiVBcfmPBcfnXBcfoDBcfoRBcfvCBcfxBBcfxFBcgeGBcgeJBc",
  "gfCBcgoUBcgqQBcgqXBcgtPBcgtZBcguCBcguMBcgvQBchkVBciaFBciaPBcicBBcicXBcidFBcidPBcidTBcifHBcif",
  "LBcigCBcigHBcigUBcihVBciiKBciiSBcikZBcilOBcilSAbPAAAFBbGBAFBbUbZAFBsfIBCFBbfnTBbfnWBbfnXFAAd",
  "IBACBFCbGskNCbGskOCAFCsjWsjYdRAFCslNsmIAEAbRAAABCmeZAGFBgrYBglMBgsABgsBBglNBglOBglPAFClyOAEF",
  "BgmKBglQBglRBglSBgmRAJCmfKAUCmcKAABABCmgFABClzKAOFBgtGBgtIBgtNBgtRBgtTBgmMBgtXBgtZBgmNBgmOBg",
  "mQBgmSBgmTBgmXBgmZAECmgBARFBgnIBgnMBgnWBgoDBgoIBguRBguSBgoTBgoUBgoVBgqMBgqNBgqQBgqZBgrABgrCB",
  "grMBgrPAAACNFBbdoABbdtKBbdoJBbgxFBbdoKBbdpTBbdoLBbsjYBbdrLBbdoZBbdoBBbhtXBbhaMBbdvEcSJAQbEFD",
  "bOglKbPDbOglMbPDbOglNbPDbOglPbPDbOglQbPDbOglRbPDbOglTbPDbOglVbPDbOglWbPDbOglYbPDbOglZbPDbOgm",
  "AbPDbOgmBbPDbOgmCbPDbOcndObPDbOcowUbPDbOcptKbPDbOcrmQbPDbOcsjGbPDbOctfWbPDbOcuzCbPDbOcwsIbPD",
  "bOcxoYbPDbOcziEbPDbOdaeUbPDbOdbbKbPDbOdbyAbPDbOdcuQbPDbOcycYbPEbOcxaYcxtKbPEbOcxaYddiQbPAAAA",
  "bNFDbObdoAbPDbObdtKbPDbObdoJbPDbObgxFbPDbObdtSbPDbObevTbPDbObdoDbPDbObevRbPDbObdrPbPDbObfnTb",
  "PDbObnaMbPDbObqoXbPDbObozKbPDbObnbSbPDbOcdfTbPDbObgzVbPDbObmpHbPDbObnlQbPDbObnaNbPDbObtxUbPD",
  "bObfvPbPDbObrjDbPDbOcbgRbPDbObtyZbPDbObfiIbPDbObdwTbPDbObfzWbPDbObipYbPDbObtaPbPDbObdxXbPDbO",
  "cbiDbPDbObfoMbPDbObtzPbPDbObdyNbPDbObxfEbPDbObxfNbPBbghZBbjuIBbmlRBbuuPIYFDeIeMdXCbYbXCbYbYC",
  "bYbZCbYcACbYcBCbYcCCbYcDCbYcECbYcFCbZbWCbZbXCbZbYCbZbZCbZcACbZcBBglKBglMBglNBglPBglQBglRBglT",
  "BglVBglWAECmqLAQFBcndOBcowUBcptKBcrmQBcsjGBctfWBcuzCBcwsIBcxoYBcziEBdaeUBdbbKBdbyABdcuQCcziU",
  "cnmECcycYcxmUBcxgIBdVFBbdoABbdtKBbdoJBbgxFBbdtSBbevTBbdoDBbevRBbdrPBbfnTBbnaMBbqoXBbozKBbnbS",
  "BcdfTBbgzVBbmpHBbnlQBbnaNBbtxUBbfvPBbrjDBcbgRBbtyZBbfiIBbudSBbskDBbhwTBccrXBbetEBbfpOBbpgIBc",
  "foVBbdyNBbexLBborJBbdoKBbdpTBbdoLBbjoOBbfuPBbfnNBbirVBbipYBbtaPBbdxXBcbiDBbfoMBbhtKCbZcCCbZc",
  "DCbZcECbZcFCcAbWCcAbXCcAbYCcAbZCcAcACcAcBCcAcCCcAcDCcAcECcAcFCcBbWCbXbnaMCbYbnaMCbZbnaMCcAbn",
  "aMCcBbnaMCcCbnaMCcDbnaMCcEbnaMCcFbnaMDbXbWbnaMDbXbXbnaMDbXbYbnaMCeAdZDdXeKdZCdXeODeEeMdWBskW",
  "BskYBslABslCBslEBslFBslHBslJBslLBslNBslPBslRBslTBslVBslXBslZBsmBBsmEBsmGBsmIAFCuSADFBsmSBsmV",
  "BsmYBsnBAECuIABFBsnKBsnMAFCuFADCuEAhMFCbdwUbgaMEskWsmRsoIsmIEskWsnRsmVskVEskWsnZsnAskWDskWso",
  "IsnREskYsmLsnZslKDskYsnZsmBDslAslDsnZFslCslTslJsoIsmJEslCsoIslFsoIDslEsnZslTDslEsoIsnGDslFsk",
  "YsnQEslFsnPsmDsmIEslFsnTsnQsoIDslGsnTsnZDslGsnZsnECslIslGDslIsmLsoIEslHsnLsnQsoIEslIsnRsmAso",
  "ICslHsnTFslHsnTslKsnPsnGGslHsnTsnHsoIsmIsnRFslHsnTsnVsmDsmIDslKsnPsnGFslKsnPsnGsmIsnZFslJsnR",
  "slWskYsnTEslJsnTsoIsmNDslLsoIslTDslNsnRsmKDslNsoIsnDEslPskYslJsnRFslPsnZsmBsoIsnGEslRsnQsnZs",
  "lKDslVsnZsmBDslVsnZsmIDsmAsoIslTCsmHslRCsmJsnRCsmIsnZCsmKsmODsmOsmDsmIDsmPskYsmEFsmRsoIslVsn",
  "ZsmIDsmRsoIsmEEsmQsoIsnSsnRFsmUskWslTsmIsnRDsmUslJsnRCsmUslNCsmTsnRFsmVskVsnPsmDsmJEsmVskXso",
  "IsmIFsmWsmDslRslBsnRDsmVsnPsnZFsmYslJslZsoIsnRCsnAslXDsnAsmLsmSDsmYsnRsmEDsnAsnZslTDsnAsoIsl",
  "SDsmZsoIslZEsnDskYsnZsmIDsnCsnRsmICsnBsnZDsnDsnZsmJDsnBsoIsnRDsnBsoIsnZEsnEskYslJsnTDsnEskYs",
  "nRDsnEsmDsmPDsnEsnRslJFsnEsnZslRsnNsnZEsnFslJsnTsnZCsnFsnQFsnFsnQsmQsoIsnRCsnHslGEsnHslGsmIs",
  "nZEsnHsoIsmIsnRDsnKsoIsmJDsnKsoIsnRDsnMskWsnZEsnQsmDsmIsnRCsnQsnPDsnRsmUsoIEsnRsoIsmWsnRCsnS",
  "snGFsnSsnZsmIslMsnZDsnVsmDsmICbWbqrXCbXbqrXCbYbqrXCbZbqrXCcAbqrXCcBbqrXCcCbqrXCcDbqrXCcEbqrX",
  "CcFbqrXDbXbWbqrXDbXbXbqrXDbXbYbqrXDbXbZbqrXDbXcAbqrXDbXcBbqrXDbXcCbqrXDbXcDbqrXDbXcEbqrXDbXc",
  "FbqrXDbYbWbqrXDbYbXbqrXDbYbYbqrXDbYbZbqrXDbYcAbqrXDeAeIdTCdWdTCdTeNDdUdTeKCeHeOCeIdVCdWeFDdW",
  "eFbYDdWeFbZCeBeNCbjtZbldOCbmsBbgaMCbhtVborJCbmqWbpePEbnlQbjzZbdyWbtxUCeIdTCeGdTCbkUdTCeFdTCe",
  "DdTCeDdUCeFdUCdZdUDdVdTeEEeDdVdTeECeIdYCeGdYCbkUdYCbkUdZCeFdZCeDdZCeAeSDeDeAeSDeFeAeSDdZeAeS",
  "DeMeAeSCbkUeECeFeECdWeECeDeECdYeFCeGeFCbkUeFCeFeFCdVeFCeDeFDeFeFbYDdVeFbYCeFbYDeDeFbYDeFeFbZ",
  "DdVeFbZCeFbZDeDeFbZDeFmxPeLEeFmxPeLbYCeIdTDeDeIdTDeFeIdTDdZeIdTDeKdTdWFeKdTdWmxPeLGeKdTdWmxP",
  "eLbYCeIeLCeGeLCbkUeLCeFeLCeIeOCeGeOCbkUeOCeFeOCeDeOCeFeOCeIePCeGePCbkUePCeFePCeDePCeFePCeDbl",
  "HCeFblHAAAADFCdUeJCdVdVCdVdWEdVmxPeDdZAAAAPFCdWdUCdZeRCeAdTCeAeICeBeGCeDeDCeDeFCeDeMCeEeFCeE",
  "eGDeEeHdZCeEeQCeFdUDeFeBeEDeFeHeECeIeAAAAAbMFDeIeIeFCeIeKCeLeKCeLeOCePdUDeOmxPeFDdTmxPeFCbXb",
  "mpHCbYbmpHCbZbmpHCcAbmpHCcBbmpHCcCbmpHCcDbmpHCcEbmpHCcFbmpHDbXbWbmpHDbXbXbmpHDbXbYbmpHDbXbZb",
  "mpHDbXcAbmpHDbXcBbmpHDbXcCbmpHDbXcDbmpHDbXcEbmpHDbXcFbmpHDbYbWbmpHDbYbXbmpHDbYbYbmpHDbYbZbmp",
  "HDbYcAbmpHDbYcBbmpHDbYcCbmpHDbYcDbmpHDbYcEbmpHDbYcFbmpHDbZbWbmpHDbZbXbmpHDdZdTeEbqqFCAcDIAnK",
  "TAAbTESbBEABFBbqGBbqIdMHAbINECcJEAAFBclkPIDEAAFBleFAJEDADBBAFBxPCDECTEAEFBxQBxGBxLBxWBxUBDFB",
  "zUByXBzTBcmwXAPEACFBclmABySBlfAADEAAFBxOAPEAAFBpVATAAEFBeLBdVBdYBeJBclpUCBFBlJBnBbZCAKFAcEHA",
  "cSHAMFAeMKAbECAdAAALDAbHAAcDIAOBAKBAdZXAbCJAGBAGBAGIAHAAHAAbSDFBclhVBcmvVBxVBcmwWJAFBzDCDAAd",
  "BCcfmUbUBAKFAqnSLAXDAbXmnBAAkJFBcbdGBbmzSBccbYBcbiEBbpzDBbdpYBbfuBBcilOBcilOBbhvLBcdfTBbgkDB",
  "bhvCBblcOBbsvXBbwhPBbyvVBbzkKBbzwQBcctJBbodUBbpiHBbqtDBbrwWBbycBBcdbUBcghTBbdtABbfpTBbonSBbr",
  "fNBbyvDBchwWBbjiUBbqjZBbyrLBcaaUBblkRBbxeMBbzoHBbjxIBbnbBBbplIBbroEBccvUBbedABbeyPBbfjYBbmeE",
  "BbolVBbrfCBbtaTBbwmJBbytQBbywYBcbtNBcfgSBcgwLBchvMBbtqYBbuaHBbvoYBbxxPBcdrOBciaPBcapABbhrBBb",
  "jzOBbvcQBbwrEBbriGBbttIBcbhYBcfeLBbhqUBbizQBboeLBbppQBbqbNBbvkPBbvuTBcexVBbfjMBbwrRBbfaABbez",
  "KBbugIBbvqCBbxzDBcezLBcavOBblkXBbodUBcaqOBbdqFBbiuXBbkjYBbrtNBbsmIBbfmDBbtvFBbefFBbkfXBbdoNB",
  "bpfGBbmlCBbvkCBbfsTBbhmCBbtbTBbycNBcanIBbouSBcckUBbpcQBblmSBbxoVBblsYBbslXBbduSBbevPBbezHBbn",
  "oZBbvhVBbxkHBcaoWBcdfRBbfkVBbfxQBbhwTBbjyQBbmoBBbqkSBbtxABcerTBcgmKBcibNBcidQBbfhJBbmxYBbosD",
  "BcchUBbjuABbkyQBblcYBbmcOBbqcHBbqxLBbsdLBbudEBbvsEBbwqPBccfMBbyiWBccpFBcduGBbfcHBbfhRBbgcJBb",
  "qsMBbzuOBcanIBbjxHBbkiVBblrNBbouGBbvbIBbrsVBbdwUBbgyJBbiuXBbjmWBbkkIBbrvEBbscFBbwiKBbwpABcdj",
  "OBcfeKBcfhOBcfpOBbedFBbucCBcdeQBcfcABbkrXBbdtEBbeqCBbivEBbiyHBbmmJBbodUBbrcOBbsuKBbyjKBccsQB",
  "cikZBbmvOBcewSBbfgRBbneXBbnjNBbpjTBbpxCBbryNBbslLBbtpRBbvjKBcfsGBbevTBbleSBcezOBbejJBbjgRBbp",
  "qGBccfQBbkeTBbkvSBbnkXBbrtNBcfaCBbfcZBbfvRBbizTBbmrBBbndEBbnqMBbpgFBbryKBbsqSBbwhDBbzvBBbzvT",
  "BcdfOBcfdQBbfnRBbpyGBbfwFBbrcQBbseABbytEBcfbFBchfJBcibVBbnfZBbppBBbxfCBbunBBbuqIBbveOBbrlWBb",
  "qqRBcauABbdvKBbxrYBbfdQBbfbRBbjvYBbllBBbvhEBbirDBbpiKBbmxGBccgHBbzqABcexXBcacHBbjxRBbeuABbgm",
  "ICAFBbhlYBAFBbmuUCJFBbfaCBbrpYBbszQBbtxSBbtzABbtzHBbuaXBcfiCBbvgGBbwjTBAFBbyuCBAFBcaqICBFBcc",
  "qABccxPDcPFBcfxVBcfyIBcgaABchsUBccwKBcfbZBbeeOBbeqPBbeuNBbfjDBbfkEBbfoJBbgkZBbgpABbgsUBbhkYB",
  "bhoYBbizSBbjaCBbkoYBbkxCBbkyOBblcKBbmjNBbmpEBbmvXBbnpDBbplVBbpsCBbqcGBbqyWBbrgDBbrzMBbtrDBbt",
  "xUBbtyFBbtyEBbtyMBbtySBbtyZBbuaVBbuaWBbuhSBbukFBbuwMBbvsEBbvsZBbvvDBbwgWBbwmNBbxfHBbxkRBbxkR",
  "BbydBBbzxOBcacSBcaqRBcasVBcbiPBcbkQBcclABccqABcfdRBcfoPBcfqXBbknTBilgGBbxgYABAAeBFBbdpMBbeyN",
  "BbevOBbecUBbeuFBbewMBbfjBBbflABbgkZBbgiFBbgkVBbgnQBbhlYBbhpJBbhuYBbhvOBbifYBbinOBbjxQBbjxXBb",
  "kdLBbkgBBbkrOBbkwCBbktKBbkyOBbkwUBblcKBbleYBbluIBblxSBblzUBbmjUBbmuUBbnbBBbnbFBbndMBbosFBbou",
  "SBbpjTBbpzNBbpyXBbqcGBbqlYBbqyWBbtiDBbrgNBbrlFBbrpYBbscNBbsiGBbskHBbssZBbstBBbszQBbtaHBbtbGB",
  "bteOBbteEBbttKBbumBBbuwMBbvdRBbvmHBbvsEBbweWBbwmNBbxtABbxzBBbzhXBbzzLBcacCBcacSBcaoDBcaqIBca",
  "oPBcaqRBcaqOBcapXBcasVBcavYBcbkQBccgEBccsGBcddPBcdmCBcezSBcfdRBcfiCBcfnFBcfoPBcfpBBcfqXBcgsW",
  "BcilOBibdYBibdSBifnPBwoZByhCByiJBirbLBivbCBjhxZBciiDBcilAAbLAAGFCdYdYCdYeBCdYeEDdYdYeBDdYdYe",
  "ECeLeMCeLeMALAAEFCcbScbUCcbScbDCcbScbJCccCcbUCcbScbLAEAAAFCcfPceEBXFCcgOceHBcfYBcfGBcfJBcfKB",
  "cfRBcfSBcfTBcgEBcgGBbRCcgFceRCcgFceSDcgFceMceRDcgFceMceSCcfGceHCcfGceICcfGceMCcfHceMCcfIceMC",
  "cfJceMCcfKceMCcfLceMCcfMceMAAAAEFCcfOceMCcfPceMCcfQceMCcfRceMCcfSceMAAAAAFCcfUceMAAAABFCcfWc",
  "eMCcfXceMAAAABFCcfZceMCcgAceMAAAAeDFCcgCceMCcgDceMCcgEceMCcgFceMCcgGceMCcfLceJCcfHcePCcfRceP",
  "CcgAcePCcfGcfSBclLBclLBclVBclVBclVBclVBclYBclYBclYBclYBcmABcmABcmABcmABclUBclUBclUBclUBclZBc",
  "lZBclZBclZBclTBclTBclTBclTBcnKBcnKBcnKBcnKBcnMBcnMBcnMBcnMBcmEBcmEBcmEBcmEBcmDBcmDBcmDBcmDBc",
  "mGBcmGBcmGBcmGBcmHBcmHBcmHBcmHBcmNBcmNBcmMBcmMBcmOBcmOBcmIBcmIBcmYBcmYBcmRBcmRBcnPBcnPBcnPBc",
  "nPBcnVBcnVBcnVBcnVBcnZBcnZBcnZBcnZBcnXBcnXBcnXBcnXBcoGBcoGBcoHBcoHBcoHBcoHBcoMBcoMBcoNBcoNBc",
  "oNBcoNBcoKBcoKBcoKBcoKBcpEBcpEBcpFBcpFbHnYFBcnTBcnTBcnTBcnTBcoTBcoTBcoSBcoSBcoUBcoUCcoTclOBc",
  "oXBcoXBcoRBcoRBcoVBcoVBcpCBcpCBcpCBcpCBcjXBcjXCciOciPCciOciPCciOcpHCciOcpHCciOcjWCciOcjWCciO",
  "coTCciOcoTCciOcoSCciOcoSCciOcoUCciOcoUCciOcpCCciOcpCCciOcpCCciOcjXCciOcjXCciOcjXBcoYBcoYBcoY",
  "BcoYCciOciUCciOciVCciOcjTCciOcjXCciOcjYCciQciUCciQciVCciQciWCciQcjTCciQcjXCciQcjYCciSciUCciS",
  "ciVCciSciWCciScjTCciScjXCciScjYCciTciUCciTcjTCciTcjXCciTcjYCciUciVCciUcjTCciVciUCciVcjTCciWc",
  "iUCciWciVCciWcjTCcjBciUCcjBciVCcjBciWCcjBcjTCcjDciVCcjDcjTCcjEciUCcjEciVCcjEciWCcjEcjTCcjFci",
  "VCcjFcjTCcjGcjTCcjHciUCcjHcjTCcjIciUCcjIcjTCcjPciUCcjPciVCcjPciWCcjPcjTCcjPcjXCcjPcjYCcjQciV",
  "CcjQcjTCcjQcjXCcjQcjYCcjRciPCcjRciUCcjRciVCcjRciWCcjRcjSCcjRcjTCcjRcjXCcjRcjYCcjSciUCcjSciVC",
  "cjSciWCcjScjTCcjScjXCcjScjYCcjTciUCcjTciVCcjTciWCcjTcjTCcjTcjXCcjTcjYCcjUciUCcjUciVCcjUciWCc",
  "jUcjTCcjUcjXCcjUcjYCcjVciUCcjVcjTCcjVcjXCcjVcjYCcjYciUCcjYciVCcjYciWCcjYcjTCcjYcjXCcjYcjYCci",
  "YclKCciZclKCcjXclKDbGckAckFDbGckBckFDbGckCckFDbGckDckFDbGckEckFDbGckFclKCciOciZCciOcjACciOcj",
  "TCciOcjUCciOcjXCciOcjYCciQciZCciQcjACciQcjTCciQcjUCciQcjXCciQcjYCciSciZCciScjACciScjTCciScjU",
  "CciScjXCciScjYCciTciZCciTcjACciTcjTCciTcjUCciTcjXCciTcjYCcjPcjXCcjPcjYCcjQcjXCcjQcjYCcjRciPC",
  "cjRcjSCcjRcjTCcjRcjXCcjRcjYCcjScjTCcjScjXCcjScjYCcjTciPCcjTcjTCcjUciZCcjUcjACcjUcjTCcjUcjUCc",
  "jUcjXCcjUcjYCcjXclKCcjYciZCcjYcjACcjYcjTCcjYcjUCcjYcjXCcjYcjYCciOciUCciOciVCciOciWCciOcjTCci",
  "OcjVCciQciUCciQciVCciQciWCciQcjTCciQcjVCciSciUCciSciVCciSciWCciScjTCciScjVCciTcjTCciUciVCciU",
  "cjTCciVciUCciVcjTCciWciUCciWcjTCcjBciUCcjBciVCcjBciWCcjBcjTCcjDciVCcjDciWCcjDcjTCcjEciUCcjEc",
  "iVCcjEciWCcjEcjTCcjFciVCcjGcjTCcjHciUCcjHcjTCcjIciUCcjIcjTCcjPciUCcjPciVCcjPciWCcjPcjTCcjQci",
  "VCcjQcjTCcjRciUCcjRciVCcjRciWCcjRcjSCcjRcjTCcjSciUCcjSciVCcjSciWCcjScjTCcjScjVCcjTciUCcjTciV",
  "CcjTciWCcjTcjTCcjUciUCcjUciVCcjUciWCcjUcjTCcjUcjVCcjVciUCcjVcjTCcjVclKCcjYciUCcjYciVCcjYciWC",
  "cjYcjTCcjYcjVCciOcjTCciOcjVCciQcjTCciQcjVCciScjTCciScjVCciTcjTCciTcjVCcjBcjTCcjBcjVCcjCcjTCc",
  "jCcjVCcjRcjSCcjRcjTCcjScjTCcjUcjTCcjUcjVCcjYcjTCcjYcjVDcjOckCckFDcjOckDckFDcjOckEckFCcjFcjXC",
  "cjFcjYCcjHcjXCcjHcjYCcjIcjXCcjIcjYCcjBcjXCcjBcjYCcjCcjXCcjCcjYCciVcjXCciVcjYCciUcjXCciUcjYCc",
  "iWcjXCciWcjYCcjDcjXCcjDcjYCcjEcjXCcjEcjYCcjCciUCcjCciVCcjCciWCcjCcjTCcjCciZCcjBciZCcjDciZCcj",
  "EciZCcjFcjXCcjFcjYCcjHcjXCcjHcjYCcjIcjXCcjIcjYCcjBcjXCcjBcjYCcjCcjXCcjCcjYCciVcjXCciVcjYCciU",
  "cjXCciUcjYCciWcjXCciWcjYCcjDcjXCcjDcjYCcjEcjXCcjEcjYCcjCciUCcjCciVCcjCciWCcjCcjTCcjCciZCcjBc",
  "iZCcjDciZCcjEciZCcjCciUCcjCciVCcjCciWCcjCcjTCcjBcjVCcjCcjVCcjFcjTCcjBciUCcjBciVCcjBciWCcjCci",
  "UCcjCciVCcjCciWCcjFcjTCcjGcjTCciPcjZCciPcjZScLFDciSciUcjTDciSciVciUDciSciVciUDciSciVcjTDciSc",
  "iWcjTDciScjTciUDciScjTciVDciScjTciWDciUcjTciVDciUcjTciVDciVcjTcjYDciVcjTcjXDcjBciVciUDcjBciU",
  "ciVDcjBciUcjXDcjBcjTciVDcjBcjTciVDcjBcjTciUDcjBcjTcjTDcjBcjTcjTDcjDciVciVDcjDciVciVDcjDcjTcj",
  "TDcjCciVcjTDcjCciVcjTDcjCciUcjYDcjCcjTciWDcjCcjTciWDcjCcjTcjTDcjCcjTcjTDcjEciVcjXDcjEciWcjTD",
  "cjEciWcjTDcjFcjTciVDcjFcjTciVDcjFcjTcjTDcjFcjTcjYDcjHciUcjTDcjHcjTcjTDcjHcjTcjTDcjHcjTcjXDcj",
  "IcjTcjTDcjIcjTcjYDcjIcjTcjXDcjPciWcjTDcjPciWcjTDcjQcjTciVDcjQcjTcjTDcjSciVcjTDcjSciVcjYDcjSc",
  "iVcjXDcjSciUciUDcjSciUciUDcjSciWcjTDcjSciWcjTDcjScjTciVDcjScjTciVDcjTciVciUDcjTciVcjTDcjTciV",
  "cjYDcjTciUciVDcjTciUcjTDcjTciWciUDcjTciWcjTCcBFDcjTciUciWDcjVcjTciUDcjVcjTcjTDcjUciVcjTDcjUc",
  "iVcjXDcjUciUcjTDcjUciUcjTDcjUciUcjXDcjUcjTcjYDcjUcjTcjXDcjYcjTcjTDcjYcjTcjTDciQciWcjYDciSciU",
  "cjYDciSciUcjXDciSciWcjYDciSciWcjXDciScjTcjYDciScjTcjXDciUcjTcjYDciUciVcjXDciUcjTcjXDcjBciWcj",
  "XDcjDciVcjYDcjCciVcjYDcjEciVcjYDcjSciUcjYDcjScjTcjYDcjYciVcjYDcjYciUcjYDcjYcjTcjYDcjTcjTcjYD",
  "cjQcjTcjYDcjUciVcjYDcjQcjTciVDcjSciVcjTDcjHcjTcjYDcjRcjTcjYDcjUciUciVDcjTciWcjYDcjSciUcjTDcj",
  "RcjTcjTDcjSciUcjTDcjUciUciVDciUciVcjYDciVciUcjYDcjTciUcjYDcjPcjTcjYDciQciVcjYDcjRcjTcjTDcjHc",
  "iUcjTDcjDcjTcjTDcjBciWcjYDcjUciUcjYIbFAAMFDcjDcjScpEDcjQcjScpEEciPcjScjScjVEciPcjRciQciZEcjT",
  "ciVcjTciXEcjDcjScjHcjTEciZcjBcjWcjSEcjHcjScjYcjVEcjWcjBcjScjTDcjDcjScjXScjDcjScjXbGciPcjScjS",
  "cjVbGcjHcjScjYcjVbGcjWcjBcjScjTIciUcjSbGciUcjSciPcjScjVEciZcoYciPcjSDPBABFBbSBseRAAAABCdsdLA",
  "DFBbHBcLBsfMBsfNAGAQAAAPFBmdWBmdVBdRBdRBbOBbPBeTBeVBsfKBsfLBsfGBsfHBsfABsfBBseYBseZADCdacJCK",
  "FBdNBdPCbGbdTCbGbdTCbGbdTCbGbdTBdRBdRBdRBbSBseRABAASFBcHBcGBcLBbHBmdWBbOBbPBeTBeVBsfKBsfLBbJ",
  "BbMBbQBbRBbTBcIBcKBcJAAAADFBdOBbKBbLBcMADAACFCbGcjZCcjOcjZCbGckABAFCbGckBAAAAfEFCbGckCCcjOck",
  "CCbGckDCcjOckDCbGckECcjOckECbGckFCcjOckFCbGckGCcjOckGBciJBciKBciKBciLBciLBciMBciMBciNBciNBci",
  "OBciOBciOBciOBciPBciPBciQBciQBciQBciQBciRBciRBciSBciSBciSBciSBciTBciTBciTBciTBciUBciUBciUBci",
  "UBciVBciVBciVBciVBciWBciWBciWBciWBciXBciXBciYBciYBciZBciZBcjABcjABcjBBcjBBcjBBcjBBcjCBcjCBcj",
  "CBcjCBcjDBcjDBcjDBcjDBcjEBcjEBcjEBcjEBcjFBcjFBcjFBcjFBcjGBcjGBcjGBcjGBcjHBcjHBcjHBcjHBcjIBcj",
  "IBcjIBcjIBcjPBcjPBcjPBcjPBcjQBcjQBcjQBcjQBcjRBcjRBcjRBcjRBcjSBcjSBcjSBcjSBcjTBcjTBcjTBcjTBcj",
  "UBcjUBcjUBcjUBcjVBcjVBcjVBcjVBcjWBcjWBcjXBcjXBcjYBcjYBcjYBcjYCcjSciKCcjSciKCcjSciLCcjSciLCcj",
  "SciNCcjSciNCcjSciPCcjSciPABAAABAAAAbFCdsnOAZCdsmIAbJCdsnOABCdczQAbJFBbUBsfCBsfDBseRBsoHBsnYB",
  "skVBskXBskZBslBBslDBsnJBsnLBsnNBsmDBsoIBskWBskYBslABslCBslEBslFBslHBslJBslLBslNBslPBslRBslTB",
  "slVBslXBslZBsmBBsmEBsmGBsmIAFCdahNADFBsmSBsmVBsmYBsnBAECdahDABFBsnKBsnMAFCdahAADFBsnVBsnZBsk",
  "NBskOAABABCdmjPAGFBgrYBglMBgsABgsBBglNBglOBglPAFCdmdEAEFBgmKBglQBglRBglSBgmRAJCdmkAACAAFCdmh",
  "DABAAFCdmhFABAAFCdmhHABAACCdmhJACAABCdsrEAEFBgQCbGbdSBgKBgJBmjPAAAAAFBoaKADCdgfHABFBogMBoiDA",
  "QAMAAbAAATAACAAPBAObHAeTEADDAbTCAdKAANCABbUAbUeZAbDCAbXOAbCDAbKIAbEEAbREAbEAAbLDAObPAAbNDbOe",
  "OBAKFAAbJDbOADAbKDAbOHAcAKABKDbNAAAAODbNAAAAGDbNAAAABDbNAAALAAPAAHAACCAcALAlZIAWJAIXABBCdusV",
  "ACFBiWBzPBwXAAAAbPFBzZBcmxQBbaBBbaABxABxBBlfDBxCBxIBbaFBxOBxMBxKBzRBlJBzSBxRByUBbaGBbaHBxWBg",
  "zkMBcllUBxYBgzkNBzEBgzkOBjOByGByHBeJByKBgzkQByNByOByQBbaEBbaCBcmxRBbaDByYBqvPAAAAIFBzFBzXBzY",
  "BzOBrGBrHBrIBgzkSBgzlMAcQAGBABAAbSAACCABBAXAAcUHAJbVATAACEAbHCAbBEAbBbLAcEDAUBAbYAACEAIAADAA",
  "bDBADDAKGAJGAcMbFAbNDAMIAcCCAbDBAbBEAbAGAELAHdBAcVcCAAbYDcMAMAbZGAbUHAKFAQVDbGACAbDHAChZAbFA",
  "AbQAADBACPAGHAJbGAbUHAbQVAbAbLAbCTAXIAdADAbKIAcKAAFMAZGAKFAcBAASHAbNIAdSAAUKASAAbVcJAHAABAAE",
  "AAPAALFAcHEAKFAEAAIBACBAWAAHAACAAFAAKBACBADBABFABEAHBAHCAFKAKAABBABAAbMAAKAABBABAAEAAKAACHAC",
  "bCAdOAAFbDAcUHAKgJAcCBAbMbHAcRKAKFANSAcGFAKFAUbBAbBBAPDAXhCAcIdVAAbFDbGbZLAIBABBAIAACAAbEAAC",
  "BAMIAKcRAIBAbUBALbAAcUHAdFMAcVGAKdHAIdJAbINAKFAJAAbTAAOJAbDCAbGBAWAAOcUAHAACAAbSCABAACAAJHAK",
  "FAGAACAAbLAACAAGGAKFAbSDAKjLAZGARAAbPCAbDdGABOAbYMAbjNdXAeHAAFKAhOdxJAdVMAbpGPAWJAfxREAwLkdC",
  "AcGcoRAvXGAbFAAKDAdDAAKFAbEBAGJAcSJAKAAHAAVEATqPAcGhPAAbFDbGcHEAAYDbBABAZbRAcXDAcFGARcLAFKAH",
  "IAkxYbOAbGdSAeLmwQAEAAHAACAAlFOABbCADBABNAEHApGdkTAeDEANCAJGAKBAEDBAfvFAiGZCgsjTAJCgsmQDCAqU",
  "FAXOAROAbUBAXIAeMcHAjMJAbNBAcBGFCgufVgugJCgufWgugJDgufWgugJgugSDgufWgugJgugTDgufWgugJgugUDgu",
  "fWgugJgugVDgufWgugJgugWOHBcMFFCgujPgugJCgujQgugJDgujPgugJgugSDgujQgugJgugSDgujPgugJgugTDgujQ",
  "gugJgugTbQUAcSeRAULAULAdJIAZfEAAZCgvcHAZCgvdHAZCgveHAGCgvfHAAAARCgvfHAZCgvgHAZCgvhHAAFBdTAAA",
  "ABCgviHABAAAFBdZABAABCgviHABAADCgviHAAAAHCgviHADCgvjHAAAAAFBdYAAAAGCgvjHAAAAKCgvjHAZCgvkHAZC",
  "gvlHABCgvmHAAAADCgvmHABAAHCgvmHAAAAGCgvmHAAAAZCgvnHABCgvoHAAAADCgvoHAAAAECgvoHAAAAAFBeHACAAG",
  "CgvoHAAAAZCgvpHAZCgvqHAZCgvrHAZCgvsHAZCgvtHAZCgvuHAZCgvvHAZCgvwHAZCgvxHAZCgvyHAZCgvzHAZCgwaH",
  "AZCgwbHABFBlTBvVABAAQCguvVAAFBbkQAGCguvVAAFBmxBAQCguwVAAFBblBAGCguwVAGFBmwWBbkNBbkQBbkSBblEB",
  "bkZBbkYAQCguyBAAFBbkQAGCguyBAAFBmxBAQCguzBAAFBblBAGCguzBAGFBmwWBbkNBbkQBbkSBblEBbkZBbkYAQCgv",
  "aHAAFBbkQAGCgvaHAAFBmxBAQCgvbHAAFBblBAGCgvbHAGFBmwWBbkNBbkQBbkSBblEBbkZBbkYAQCgvcNAAFBbkQAGC",
  "gvcNAAFBmxBAQCgvdNAAFBblBAGCgvdNAGFBmwWBbkNBbkQBbkSBblEBbkZBbkYAQCgveTAAFBbkQAGCgveTAAFBmxBA",
  "QCgvfTAAFBblBAGCgvfTAIFBmwWBbkNBbkQBbkSBblEBbkZBbkYBbmBBbmBABAAJCgwpQAJCgwqAAJCgwqKAJCgwqUAJ",
  "CgwrEzCOAFAAPbqLAbFFAGiEAHAARBAHAACAAFEAAICgygUACCgygTAKCgygSAJFBbqHBbqJBbqKBclbTBbvTBbqSBbq",
  "UBbwJBbuDBbvJAICgyiBABCgyiAABCgyhYAAFBbpXAFCgyhWABCgyhVAGFBbsZBbqSBbqRBbrBBbtZBckzPBbuFAbGAB",
  "eHAbTCAOBAKDACmHAbFQAcGEABrVAbQiFAbRDABhJAbFAAWHACiPAHAAEAACAAPAAhPBAQbOAAbHDbIbQDAKDACbeEAc",
  "QcXAcJhLAABChctLABFBciUBciXAAAAEFBcjWBcjABciVBcjFBcjYADChcsTARFBcjBBcjHBcjPBcjDBcjQBciZBcjCB",
  "ciSBciTBciWBciYBcjEBcjGBcjIBclIBcoGBcnHBclJAAAABFBciQBciUAAAAAFBcjVABAAAFBciVAAAAAFBcjYADChc",
  "tZAEFBcjBBcjHBcjPBcjDBcjQAAAADFBcjCBciSBciTBciWAAAAAFBcjEAAAAAFBcjIAFAAAFBciUADAAAFBciVAAAAA",
  "FBcjYAAAAAFBcjSAAAACFBcjUBcjBBcjHAAAABFBcjDBcjQAAAAAFBcjCABAAAFBciWAAAAAFBcjEAAAAAFBcjIAAAAA",
  "FBcoGAAAAAFBclJAAAABFBciQBciUAAAAAFBcjVABAADFBciVBcjFBcjYBcjRAAAABChcwLAEFBcjBBcjHBcjPBcjDBc",
  "jQAAAADFBcjCBciSBciTBciWAAAADFBcjEBcjGBcjIBclIAAAAAFBcnHAAAABChcyJAHFBciUBciXBcjVBcjWBcjABci",
  "VBcjFBcjYAAAACChcxRANFBcjBBcjHBcjPBcjDBcjQBciZBcjCBciSBciTBciWBciYBcjEBcjGBcjIAEAACFBciQBciU",
  "BciXAAAAEFBcjWBcjABciVBcjFBcjYAAAACChcyXANFBcjBBcjHBcjPBcjDBcjQBciZBcjCBciSBciTBciWBciYBcjEB",
  "cjGBcjIAbZACkJAbSDAdWLAPBAPAAPAAbLKAAJFCbWbSCbXbSCbYbSCbZbSCcAbSCcBbSCcCbSCcDbSCcEbSCcFbSFbE",
  "FDbOdTbPDbOdUbPDbOdVbPDbOdWbPDbOdXbPDbOdYbPDbOdZbPDbOeAbPDbOeBbPDbOeCbPDbOeDbPDbOeEbPDbOeFbP",
  "DbOeGbPDbOeHbPDbOeIbPDbOeJbPDbOeKbPDbOeLbPDbOeMbPDbOeNbPDbOeObPDbOePbPDbOeQbPDbOeRbPDbOeSbPD",
  "sfKeLsfLBdVBeKCdVdWCePeSBZChgdRAFFCeAeOCeFeOCeLdWCeLeLDeIeIeOCePdVbACFCeFdVCeFdWCeFeKbJAFCdW",
  "eCbDcDAbACFCsjJshNCslNslNBslPAMAAbRFBblfVBbipJBbftCBsmHBbdtKBbhtIBcafRBbhtXBbduIBbmrOBbqvXBb",
  "mmJBbfeJBbkeUBbewZBbmnGBbfcNBbvlIBbsjFBcbgZBbhrSBbfxHBbqbSBbliRBblqBBbdoABbdoJBccqSBbjoOBbdp",
  "TBbfuPBblnBBcboQBblgDBbuaJBbujYBbfvKBbpwABbnaNBbnaMBbsjZBbffUBbglYBcdaRADAAIFDsfKbnbWsfLDsfK",
  "bdoJsfLDsfKbdtKsfLDsfKbirHsfLDsfKbqrXsfLDsfKblgDsfLDsfKbtaDsfLDsfKbfjXsfLDsfKbmjVsfLAGAABFBb",
  "kfFBbfuLANAGfXAblXCARCANCAiKFAMDABOAMDAcEHAKFAbOHAbEBAMDACNAJbMAnGHAOBANCALCAcFAABDAQBAMDAKG",
  "AfRAAdOJChkhKBbnOAclfCbFAgmOBAioCBAlbLOAxYdqVAAuVFBbdqJBbdqEBbdqNBhmiKBbebOBbeeOBbefBBbehUBb",
  "emKBbenPBbeqPBbepRBtyCBhogOBbeuNBbeuUBbevKBbewDBhnvOBtzDBbevNBbewZBhnxJBbexJBbexWBbdvWBbeyEB",
  "beyNBjpdNBbfaZBbfbNBuaPBbfdRBbfeCBbffUBbffZBucRBbfjBBbfjDBbfkEBbflABbflLBbflMBbfmDBbfoBBbfoJ",
  "BbfoSBbfpRBbfqBBbfqDBbfqDBbfqDBhptKBbqpCBbftABbftVBhqfJBbfuHBbfuNBbfvIBbgbEBbfxGBbfxWBbfzCBb",
  "gbIBbgeOBbgfOBbgiDBbgiTBbgkABbgkABbgkVBbglNBbglVBbgmKBbgzMBbgpABbgzNBbgrXBbgtGBbfbRBbhrQBbhg",
  "OBbhiABbhiZBbhdZBbhkKBbhkJBbhpCBhtuYBbhrUBbhrZBbhsOBbhtIBbhtQBbhwCBhumIBhuoWBbibKBbidFBbidRB",
  "biaQBbigCBuuWBuvKBbimIBbioKBbioKBhvrCBbitNBbiuIBbiuXBbivJBhweABbivVBbiwCBbkcPBbixEBvaNBbizOB",
  "bjaCBbjdGBbjbHBhxfOBbjiHBhxfQBbjjYBbjjVBbjkMBbjoJBbjoKBvhFBbjpLBbjrCBbjrXBbjtPBvjEBhypFBvkEB",
  "bjwIBbjwLBbjwOBbjxIBjvvUBbjzIBhzfTBhzfTBbxgBBbkaSBbkaSBvnBBifcQBiwySBbkdEBbkdNBvoDBbkfIBbkhH",
  "BbkhRBbkiZBbkoFBvrMBvqIBbkoYBiapOBbkqXBbkvWBbkwABbkwCBbkwABbkxUBbkyOBbkzYBbkzKBbkzVBblbQBblc",
  "KBblcOBbldOBbldZBblgNBbljTBbllCBblpWBicfCBblpDBblmQBblqUBblrVBblvOBicnXBblxYBbluJBbltHBwaWBb",
  "maRBbmbMBbmcRBbmbFBwdGBbmjNBbmkQBiecGBbmpFBbmzWBbmtDBwjXBbmvXBwjGBwhWBbexEBbexHBbnaEBbmwIBbw",
  "sZBzsBBbnbBBbnbFBbnbLBbndUBbndJBifmXBwlTBbnjUBbnfHBbnnEBbnpDBiftLBbnpMBbnlFBbnuQBwoZBbnwKBbo",
  "aDBbocWBbokEBigpFBbomDBwtSBbooVBihjBBboqUBwvUBborYBbotRBbouSBbouTBiibTBhwxFBiifYBbpaKBiixGBb",
  "peTBbpfHBbpbJBbpiCBbpjQBbplVBbpjTBbplHBbplWBbpmJBijbABbpjGBbpsXBbpvIBxePBbpyXBbpyTBijrTBbpqV",
  "BbqfEBijxEBijzABbqiOBbqmZBbqlYBbqlVBxiKBbqnQBbqpPBbqpJBbqrLBhnvXBbqxHBilaXBbraQBilnNBbrgABbr",
  "gNBbrhOBimkUBbrjKBbrkFBimwJBineYBbrtABbrtRBxtCBbruRBxtOBxtOBbsaXBbsbSBbscNBbsdHBbsfYBxxJBbsj",
  "KBiotQBbskKBioxEBbsmIBhyqHBbssMBiqbHBiqcEBiqhOBygABygMBbtbGBiqoHBiqoGBiqpTBiqqTBbtcWBbtcXBbt",
  "cXBbteOByiJBbthBByiWBylYBirtLBbtoOBbtqYBbttKByoXBisnMBbtySBisrYBistPBbuaXBbueLByrVBbuhSBbuiC",
  "BbuiHBituIBiufVBiufVBbuoKByzYBiupVBbuwSBbuwVBzbJBiuyABbvhABzgABbvhWBbvhRBbviUBiwbUBbvmPBzjTB",
  "bvqLBbvsSBbvvHBzlSBixbSBixcXBznDBixiNBbwhEBixmKBbwiFBbwmCBbwmNBiycGBiyfBBbwqABiykEBbwqQBifjB",
  "BzrXBbwtEBbwwHBztZBbwyOBbijDBizdVBizeJBiflBBiflKBbxgBBbxgEBcckCBzxRBbxlPBbxlJBbxmBBbfiHBbxmV",
  "BbxmXBbxnHBbxoWBjanCBbxoVBbxqZBbxtRBbxwNBbxrFBbxxDBbxyTBbydBBbxtBBbxxQBbxxSBbxyIBjawSBjbiPBj",
  "bcVBbafBBbyiZBbyjBBbykKBjdtIBbynKBjbzWBbagZBbahDBjceZBjcqCBbahNBbywMBbywYBbyxJBbyxLBbyzXBbyy",
  "QBbzdUBbzcCBbzhXBbzeUBbzhJBbziKBbalRBbzlXBbznDBbamZBbzqUBbzqXBjetBBbzvJBbzvQBbapHBbzwSBtzFBj",
  "fpMBjfwOBbauOBbauXBcamYBcapXBcavYBcbdTBjhcQBcbhBBcbhXBcblJBcboXBjibNBhoyEBcbsDBcbrOBcbtOBhpg",
  "OBcccIBccgEBjkoWBjkpXBcctOBccxDBccyJBjlcGBccyTBcdjSBcdpVBcdpWBcdmIBceaZBcecBBjmxMBceqLBbbwNB",
  "cesDBjnmDBbbzQBcfcLBbjmOBcfgDBjoxPBjpfUBbceWBbcfEBcfnKBjpyWBbchMBjqeGBcfpBBcfpBBcfqFBjqpIBcf",
  "xIBbcmLBcgaBBcgeXBcgfYBcgiGBbcsKBjsrGBcgsWBcheMBchlTBbdcGBbddLBchpVBjuuOBbddWBjuwRBjvgWBjvlX",
  "BcicXBbdhMBcifHBcifMBcifTBcigDBcigKBcihVBjwtSAcfXAhhZEAmoObogxXAAjFBAlecTA"]

end AnchoredMetadata.Url
