import AnchoredMetadata.Text.Ranges

/-!
# Marks

The characters that extend the one before them: the Unicode general category
`Mark`.
-/

namespace AnchoredMetadata.Text

/-- The ranges of marks. -/
def markLines : List String := [
  "bdOeHAkPGAkDbSABAABBABBABAAcUKAbWUAQAAdXGACFACBABDAbJAAbEbAAdNKAcGIAJAAYDABIABCABEAbRCAcIHAb",
  "QcFAcCCABRABGAKBAbDCAcEAABPAJAAKBAbAFAcEVAbEBADAALCAcEAABPAUBAWJAcEAABZAKBAbEAAcHPAJAAbOEAcD",
  "AABYALBAbDCAcEAABYALBAPQAcDBABPAJAAKBAbDCAcSVASBAcJAACGAMHAdUAACIALGAcVBAbBAABAABAAEBAbXTABB",
  "AFbVAJAAdWTAXDAECABCACGADDANLABAAKDAbbBCAbkKDAbCCAbDBAbEBAcObDAJAAgLBAbIAAeObBAiLEAcFbQAbWbE",
  "AbXEAbVQAbMIAMCAbEMAcENAbWTAfWCABUAEAAGAACCAhQcLAbbSbGAeoCCAfLAAdSbFAvIFAeBBAbsqEDABJAbGBAdC",
  "BAkMAADAAEAAXEAEAAdFBAbYRAbARANAAbMHAZMAbSDAbVNAbKAAcPNAMAAIBAbTCAbYAABCACBAFBABAAbPEAFBAjCH",
  "ABBAbdzSAAbdPPAblLAAiSAAfTEAcmGOAbOHAgJBAwBDAoXBAdCCAcSKAbXDAeSCAcBOAbPAACBAKDAbTKAHAAcJCAbK",
  "NAQBAbSAAMCAbWNAIDABBAdOLAGAACAAgBLAVDAcDBABPAJAAKSAhKRAXAAdDTAjBRAbBBAdEQAeCMAdXOAjWOAjLOAB",
  "AABBAfLPADAAbCJAbOGABDAIAAJKAbUPApPQAdEbKAeSUABAAcONAnJDAJBABAAbWOAhyRAAGOAurQEAcHGAboIAABcN",
  "AdDNAbdaXBAgyZcSAuWEADVACGAbEDAfSCAcyDcCAEbXAIAAOAAWUAcaIfNAgEGAoLAAcJDAtODAbmEGAeFGA"]

/-- The table of marks. -/
def marks : List ValuedRange := rangesOfLines markLines

/-- Whether a character is a mark. -/
def isMark (c : Char) : Bool := (valueIn? marks c).isSome

end AnchoredMetadata.Text
