import AnchoredMetadata.Text.Ranges

/-!
# Composites and combining classes

The pairs of characters that have a composite, Korean syllables apart, and the
canonical combining classes of marks.
-/

namespace AnchoredMetadata.Text

/-- A character that stands for two others. -/
structure Composite where
  /-- The code point of the composite. -/
  whole : Nat
  /-- The code point of its first part. -/
  first : Nat
  /-- The code point of its second part. -/
  second : Nat
  deriving Repr

/-- The composites that numbers describe, from a code point on: the gap before a composite and
its two parts. -/
def readComposites (start : Nat) : List Nat → List Composite
  | gap :: first :: second :: rest =>
    ⟨start + gap, first, second⟩ :: readComposites (start + gap + 1) rest
  | _ => []

/-- The composites, in order of their code points. -/
def compositeLines : List String := [
  "hKcNbdOAcNbdPAcNbdQAcNbdRAcNbdWAcNbdYBcPbfBAcRbdOAcRbdPAcRbdQAcRbdWAcVbdOAcVbdPAcVbdQAcVbdWB",
  "dAbdRAdBbdOAdBbdPAdBbdQAdBbdRAdBbdWCdHbdOAdHbdPAdHbdQAdHbdWAdLbdPCdTbdOAdTbdPAdTbdQAdTbdRAdT",
  "bdWAdTbdYBdVbfBAdXbdOAdXbdPAdXbdQAdXbdWAeBbdOAeBbdPAeBbdQAeBbdWBeGbdRAeHbdOAeHbdPAeHbdQAeHbd",
  "RAeHbdWCeNbdOAeNbdPAeNbdQAeNbdWAeRbdPBeRbdWAcNbdSAdTbdSAcNbdUAdTbdUAcNbfCAdTbfCAcPbdPAdVbdPA",
  "cPbdQAdVbdQAcPbdVAdVbdVAcPbeAAdVbeAAcQbeAAdWbeACcRbdSAdXbdSAcRbdUAdXbdUAcRbdVAdXbdVAcRbfCAdX",
  "bfCAcRbeAAdXbeAAcTbdQAdZbdQAcTbdUAdZbdUAcTbdVAdZbdVAcTbfBAdZbfBAcUbdQAeAbdQCcVbdRAeBbdRAcVbd",
  "SAeBbdSAcVbdUAeBbdUAcVbfCAeBbfCAcVbdVDcWbdQAeCbdQAcXbfBAeDbfBBcYbdPAeEbdPAcYbfBAeEbfBAcYbeAA",
  "eEbeAEdAbdPAeGbdPAdAbfBAeGbfBAdAbeAAeGbeADdBbdSAeHbdSAdBbdUAeHbdUAdBbdZAeHbdZCdEbdPAeKbdPAdE",
  "bfBAeKbfBAdEbeAAeKbeAAdFbdPAeLbdPAdFbdQAeLbdQAdFbfBAeLbfBAdFbeAAeLbeAAdGbfBAeMbfBAdGbeAAeMbe",
  "ACdHbdRAeNbdRAdHbdSAeNbdSAdHbdUAeNbdUAdHbdYAeNbdYAdHbdZAeNbdZAdHbfCAeNbfCAdJbdQAePbdQAdLbdQA",
  "eRbdQAdLbdWAdMbdPAeSbdPAdMbdVAeSbdVAdMbeAAeSbeAbHdBbePAeHbePNdHbePAeNbePbCcNbeAAdTbeAAcVbeAA",
  "eBbeAAdBbeAAeHbeAAdHbeAAeNbeAAiMbdSAjSbdSAiMbdPAjSbdPAiMbeAAjSbeAAiMbdOAjSbdOBhObdSAiUbdSAvE",
  "bdSAvFbdSAhQbdSAiWbdSCcTbeAAdZbeAAcXbeAAeDbeAAdBbfCAeHbfCAsWbdSAsXbdSAqXbeAAzIbeAAeCbeADcTbd",
  "PAdZbdPCdAbdOAeGbdOAhPbdPAiVbdPAhQbdPAiWbdPAiIbdPAjObdPAcNbeDAdTbeDAcNbeFAdTbeFAcRbeDAdXbeDA",
  "cRbeFAdXbeFAcVbeDAeBbeDAcVbeFAeBbeFAdBbeDAeHbeDAdBbeFAeHbeFAdEbeDAeKbeDAdEbeFAeKbeFAdHbeDAeN",
  "beDAdHbeFAeNbeFAdFbfAAeLbfAAdGbfAAeMbfACcUbeAAeAbeAGcNbdVAdTbdVAcRbfBAdXbfBAiGbdSAjMbdSAiFbd",
  "SAjLbdSAdBbdVAeHbdVAvMbdSAvNbdSAdLbdSAeRbdSmZgMbdPAbjDbdPBbjHbdPAbjJbdPAbjLbdPBbjRbdPBbjXbdP",
  "AbkBbdPAblIbdPZbjLbdWAbjXbdWAbkJbdPAbkNbdPAbkPbdPAbkRbdPAblJbdPZbkRbdWAblDbdWAbkXbdPAblDbdPA",
  "blHbdPEblQbdPAblQbdWbRboFbdOAboFbdWBboDbdPDbnQbdWEboKbdPAboIbdOAboTbdUKboIbdUbFbpObdUWbpLbdO",
  "AbpLbdWBbpJbdPDbqSbdWEbpQbdPAbpObdOAbpZbdUXbrWbeDAbrXbeDcVboGbdUAbpMbdUNboAbdUAbpGbdUAboAbdW",
  "AbpGbdWCboFbdUAbpLbdUCbvSbdWAbvTbdWAboGbdWAbpMbdWAboHbdWAbpNbdWCboIbdSAbpObdSAboIbdWAbpObdWA",
  "boObdWAbpUbdWCbwIbdWAbwJbdWAbpDbdWAbqJbdWAboTbdSAbpZbdSAboTbdWAbpZbdWAboTbdZAbpZbdZAboXbdWAb",
  "qDbdWCbpBbdWAbqHbdWlKciPckHAciPckIAcjWckIAciPckJAcjYckIfXcpHckIBcoNckIQcpEckIwZdmEdmYHdmMdmY",
  "CdmPdmYfUdsHdrYAdsHdsXoPehBehQCehBegSAehBehRcTejYemPcBelYelQAelZelQAelYemPeTeqWerMePevNewJGe",
  "vUewJAevUewKBevUevQAevYewJeWfaSfaKAfaTfaKAfaSfbJfLfgJffUBfgJffZAfgMffUAfgJfgPwLgcZgdIedBkgBk",
  "hXBkgDkhXBkgFkhXBkgHkhXBkgJkhXDkgNkhXbOkiCkhXBkiEkhXCkiGkhXAkiHkhXBkiKkhXbaYcNbeZAdTbeZAcObd",
  "VAdUbdVAcObeXAdUbeXAcObfLAdUbfLAhRbdPAiXbdPAcQbdVAdWbdVAcQbeXAdWbeXAcQbfLAdWbfLAcQbfBAdWbfBA",
  "cQbfHAdWbfHAkObdOAkPbdOAkObdPAkPbdPAcRbfHAdXbfHAcRbfKAdXbfKAvGbdUAvHbdUAcSbdVAdYbdVAcTbdSAdZ",
  "bdSAcUbdVAeAbdVAcUbeXAeAbeXAcUbdWAeAbdWAcUbfBAeAbfBAcUbfIAeAbfIAcVbfKAeBbfKAhZbdPAjFbdPAcXbd",
  "PAeDbdPAcXbeXAeDbeXAcXbfLAeDbfLAcYbeXAeEbeXAllMbdSAllNbdSAcYbfLAeEbfLAcYbfHAeEbfHAcZbdPAeFbd",
  "PAcZbdVAeFbdVAcZbeXAeFbeXAdAbdVAeGbdVAdAbeXAeGbeXAdAbfLAeGbfLAdAbfHAeGbfHAiFbdPAjLbdPAiFbdWA",
  "jLbdWAmUbdOAmVbdOAmUbdPAmVbdPAdCbdPAeIbdPAdCbdVAeIbdVAdEbdVAeKbdVAdEbeXAeKbeXAlmWbdSAlmXbdSA",
  "dEbfLAeKbfLAdFbdVAeLbdVAdFbeXAeLbeXAnIbdVAnJbdVAnObdVAnPbdVAlnEbdVAlnFbdVAdGbdVAeMbdVAdGbeXA",
  "eMbeXAdGbfLAeMbfLAdGbfHAeMbfHAdHbeYAeNbeYAdHbfKAeNbfKAdHbfHAeNbfHAnWbdPAnXbdPAnYbdWAnZbdWAdI",
  "bdRAeObdRAdIbeXAeObeXAdJbdOAePbdOAdJbdPAePbdPAdJbdWAePbdWAdJbdVAePbdVAdJbeXAePbeXAdKbdVAeQbd",
  "VAdKbdWAeQbdWAdLbdVAeRbdVAdMbdQAeSbdQAdMbeXAeSbeXAdMbfLAeSbfLAeAbfLAeMbdWAePbdYAeRbdYBoTbdVE",
  "cNbeXAdTbeXAcNbdXAdTbdXAhMbdPAiSbdPAhMbdOAiSbdOAhMbdXAiSbdXAhMbdRAiSbdRAlpObdQAlpPbdQAjYbdPA",
  "jZbdPAjYbdOAjZbdOAjYbdXAjZbdXAjYbdRAjZbdRAlpObdUAlpPbdUAcRbeXAdXbeXAcRbdXAdXbdXAcRbdRAdXbdRA",
  "hUbdPAjAbdPAhUbdOAjAbdOAhUbdXAjAbdXAhUbdRAjAbdRAlqMbdQAlqNbdQAcVbdXAeBbdXAcVbeXAeBbeXAdBbeXA",
  "eHbeXAdBbdXAeHbdXAiEbdPAjKbdPAiEbdOAjKbdOAiEbdXAjKbdXAiEbdRAjKbdRAlrGbdQAlrHbdQAqAbdPAqBbdPA",
  "qAbdOAqBbdOAqAbdXAqBbdXAqAbdRAqBbdRAqAbeXAqBbeXAdHbeXAeNbeXAdHbdXAeNbdXAqPbdPAqQbdPAqPbdOAqQ",
  "bdOAqPbdXAqQbdXAqPbdRAqQbdRAqPbeXAqQbeXAdLbdOAeRbdOAdLbeXAeRbeXAdLbdXAeRbdXAdLbdRAeRbdRGbkJb",
  "eHAbkJbeIAltGbdOAltHbdOAltGbdPAltHbdPAltGbgCAltHbgCAbjDbeHAbjDbeIAltObdOAltPbdOAltObdPAltPbd",
  "PAltObgCAltPbgCAbkNbeHAbkNbeIAltWbdOAltXbdOAltWbdPAltXbdPCbjHbeHAbjHbeIAluEbdOAluFbdOAluEbdP",
  "AluFbdPCbkPbeHAbkPbeIAluMbdOAluNbdOAluMbdPAluNbdPAluMbgCAluNbgCAbjJbeHAbjJbeIAluUbdOAluVbdOA",
  "luUbdPAluVbdPAluUbgCAluVbgCAbkRbeHAbkRbeIAlvCbdOAlvDbdOAlvCbdPAlvDbdPAlvCbgCAlvDbgCAbjLbeHAb",
  "jLbeIAlvKbdOAlvLbdOAlvKbdPAlvLbdPAlvKbgCAlvLbgCAbkXbeHAbkXbeIAlvSbdOAlvTbdOAlvSbdPAlvTbdPCbj",
  "RbeHAbjRbeIAlwAbdOAlwBbdOAlwAbdPAlwBbdPCblDbeHAblDbeIAlwIbdOAlwJbdOAlwIbdPAlwJbdPAlwIbgCAlwJ",
  "bgCBbjXbeIBlwRbdOBlwRbdPBlwRbgCAblHbeHAblHbeIAlwYbdOAlwZbdOAlwYbdPAlwZbdPAlwYbgCAlwZbgCAbkBb",
  "eHAbkBbeIAlxGbdOAlxHbdOAlxGbdPAlxHbdPAlxGbgCAlxHbgCAbkJbdOBbkNbdOBbkPbdOBbkRbdOBbkXbdOBblDbd",
  "OBblHbdODltGbgFAltHbgFAltIbgFAltJbgFAltKbgFAltLbgFAltMbgFAltNbgFAltObgFAltPbgFAltQbgFAltRbgF",
  "AltSbgFAltTbgFAltUbgFAltVbgFAluMbgFAluNbgFAluObgFAluPbgFAluQbgFAluRbgFAluSbgFAluTbgFAluUbgFA",
  "luVbgFAluWbgFAluXbgFAluYbgFAluZbgFAlvAbgFAlvBbgFAlwYbgFAlwZbgFAlxAbgFAlxBbgFAlxCbgFAlxDbgFAl",
  "xEbgFAlxFbgFAlxGbgFAlxHbgFAlxIbgFAlxJbgFAlxKbgFAlxLbgFAlxMbgFAlxNbgFAbkJbdUAbkJbdSAlxObgFAbk",
  "JbgFAbkEbgFBbkJbgCAmaGbgFAbjDbdUAbjDbdSAbjDbdOBbjDbgFEgMbgCAlxSbgFAbkPbgFAbkGbgFBbkPbgCAmaWb",
  "gFAbjHbdOBbjJbdOBbjJbgFAmaPbdOAmaPbdPAmaPbgCAbkRbdUAbkRbdSAblIbdODbkRbgCAblIbgCAbjLbdUAbjLbd",
  "SAbjLbdOCmdAbdOAmdAbdPAmdAbgCAblDbdUAblDbdSAblJbdOBbkZbeHAbkZbeIAblDbgCAblJbgCAbjXbdUAbjXbdS",
  "AbjXbdOBbjTbeIAgMbdOElyAbgFAblHbgFAblMbgFBblHbgCAmcSbgFAbjRbdOBbkBbdOBbkBbgFpXmsMbfSAmsObfSS",
  "msQbfSbEmuYbfSAmvCbfSAmvAbfScAmwXbfSEmxCbfSCmxFbfSXmyDbfSBmyFbfSbAmzCbfSCmzJbfSCmzLbfSBmzObf",
  "SWcJbfSBnaNbfSKmzTbfSAcIbfSAcKbfSAnaQbfSAnaRbfSCnbEbfSAnbFbfSCnbIbfSAnbJbfSGnbMbfSAnbNbfSCnb",
  "UbfSAnbVbfSCnbYbfSAnbZbfSbIndAbfSAndGbfSAndHbfSAndJbfSbWnbObfSAnbPbfSAncJbfSAncKbfSGndQbfSAn",
  "dRbfSAndSbfSAndTbfSfbQshNskNBshPskNBshRskNBshTskNBshVskNBshXskNBshZskNBsiBskNBsiDskNBsiFskNB",
  "siHskNBsiJskNCsiMskNBsiOskNBsiQskNGsiXskNAsiXskOBsjAskNAsjAskOBsjDskNAsjDskOBsjGskNAsjGskOBs",
  "jJskNAsjJskOWshIskNJskRskNNslFskNBslHskNBslJskNBslLskNBslNskNBslPskNBslRskNBslTskNBslVskNBsl",
  "XskNBslZskNBsmBskNCsmEskNBsmGskNBsmIskNGsmPskNAsmPskOBsmSskNAsmSskOBsmVskNAsmVskOBsmYskNAsmY",
  "skOBsnBskNAsnBskOWslAskNCsnVskNAsnWskNAsnXskNAsnYskNDsoJskNdgrRdzgBdzhIBdzgDdzhIOdzgNdzhIfAd",
  "zlXdzlNAdzlYdzlNuTeagLeagCAeagLeahBoCeauReauSAeauReauIBeauReauVjRebeMebeDAebeNebeDbiIecmVecm",
  "Q"]

/-- The table of composites. -/
def composites : List Composite := readComposites 0 (numbersOfLines compositeLines)

/-- The classes of the marks whose class is not zero. -/
def combiningClassLines : List String := [
  "bdOUiWAAiYADiMAAiYAAiIAEiMABhUADiMABhUAKiMAEBADiMAJiWACiMACiWABiMBCiWADiMAAiWAAiYABiMAAiWAAi",
  "ZABjAAAiZABjAAAiZAMiWkPEiWkFAiMADiWAAiMACiWAAiOAAiMAFiWAFiMABiWAAiMABiWAAiOAAiUAAiWAAKAALAAM",
  "AANAAOAAPAAQAARAASABTAAUAAVAAWBAXBAYAAZBAiWAAiMBAScUHiWAAbEAAbFAAbGbWAbBAAbCAAbDAAbEAAbFAAbG",
  "AAbHAAbIABiWABiMAEiWAAiMABiWAAiMQAbJdXGiWCDiWAAiMAAiWCBiWBAiMABiWAAiMbJAbKbEAiWAAiMABiWAAiMA",
  "BiWACiMAAiWABiMAAiWAAiMACiWAAiMAAiWAAiMAAiWAAiMAAiWAAiMABiWgEGiWAAiMAAiWJAiMYDiWBIiWBCiWBEiW",
  "bRCiMcIAiWACiMADiWbQEiWAEiMANiWBAiMABiWAAiMABiWAAiMACiWACiMAAbBAAbCAAbDACiWAAiMABiWABiMAEiWc",
  "IAHQAJDAiWAAiMABiWdZAHQAJbWAiWcJAHQAJeGAHQAJeGAHQAJeXAJeGAHQAJHAdGAAdNdXAHQAJeFBJQAJeUAJeFBd",
  "ZAAJNDeDeEBeOAAJNDeScYBiMbBAiMBAiMBAiIcDAeZAAfABAfCFDfACAfABBiWAAJBBiWcKAiMeIAHBBJdEAiMbbRCi",
  "WbkMBJbEAJgBAJKAiWhVAiUfNAiOAAiWAAiMiLAiWAAiMcTAJUHiWCAiMbWEiWAFiMABiWAAiMBBiMABiWABiMAEiWAA",
  "iMADiWdXAHPAJbMAiWAAiMAGiWcCBJcGAHLBJcPAHfWCiWBABAEiMABiWADiMAAiWBGBEAiMGAiWDBiWhQBiWAAiMAGi",
  "WAAiMABiWAAjAAAiGAAiMAAhUAbKiWAAiYABiUAAiMAAiKAAiWAAiZAAiMAAiWAAiMbbSBiWABBADiWACBABiWEAiWDB",
  "BAAiWAAiMAAiWABBADiMAAiWeoCCiWfLAJdSbFiWvIAiKAAiUAAiYAAiOABiQeBBIbsqEAiWEJiWbGBiWdCBiWkQAJbL",
  "AJfVAJbBRiWcFCiMbLAJdRAHMAJjFAiWBBiWAAiMCBiWFBiWBAiWcAAJjMAJbdzSAbAbdPGiWAGiMABiWblLAiMiSAiM",
  "fTEiWcmSAiMBAiWbOAiWAABAAiMEAJgJAiWAAiMwBDiWoXBiWdCCiMcSBiMACiWAAiMAAiWADiMbXAiWAAiMAAiWAAiM",
  "hKAJbPAJOAJcFAJAAHcRCiWbWBJcKAHcYAJJAHeCAJAAHgWAHAAJdCBHQAJYOiWhXAJDAHXAiWdVAJAAHjRAJAAHeWAJ",
  "eOAJAAHeLAJkJAJAAHjYBJEAHgAAJdFAJSAJdDAJqFAJjYAHBBJdDAJqJBJbcrDEBcHGiWbuNBGbdaYABhwOBiIACBDA",
  "iSAEiIIHiMCEiWABiMbEDiWfSCiWffFfNiWgEGiWoLAiWcJDiWtOBiYAAiMAAiWbmEGiMeFFiWAAH"]

/-- The table of combining classes. -/
def combiningClasses : List ValuedRange := rangesOfLines combiningClassLines

end AnchoredMetadata.Text
