import AnchoredMetadata.Text.Ranges

/-!
# Direction of domain names

A domain name with characters that run from right to left is allowed only if the
order in which its labels are shown can be told.
-/

namespace AnchoredMetadata.Url

/-- How a character runs. -/
inductive Direction where
  /-- From left to right. -/
  | left
  /-- From right to left. -/
  | right
  /-- A digit that keeps company with letters from right to left. -/
  | arabicNumber
  /-- A digit. -/
  | number
  /-- A mark that takes the direction of what it stands on. -/
  | mark
  /-- None of its own. -/
  | neutral
  deriving DecidableEq, Repr

/-- Characters without a direction of their own (0), that run from right to left (1), digits
with those (2), other digits (3) and marks (4). -/
def directionLines : List String := [
  "AbVAAJDAbMAbAdOAbFAArHBAHNACbBABQAAeHEFAAeYAAfKGEjWFABbSEAABAAEAABABEAABABEAABAAEIbKBRBAAABA",
  "BAAABAAAAABABAAKEAbVBAUEAJCAAAABCACBAAEAdWBAGEBAAAFEABBABEAAAADEABBAJDAWBAAEAbDBAbAECdKBAKEA",
  "cFBAIEABBADAAABCAEAXBADEAABAIEAABACEAABAEECbOBACECcFBAHEAbPBAcEEcDAEBAEEHEEAEDGEKBEbDAEcGAEE",
  "DEIAEUBEOBAHAACEEcFAEEQEbEBEDAELBEcFAEEHEEAEUBENAAIHEcGAECAEBDEIJELBEbEAEcJAEMAEbLHAFAEDAEcD",
  "AEBCEFQELBEUGACAEcGAEPBEUBEbCBEcFBEEDEIAEUBEbDAEcUAEHEEdMAECGEEAAHHEdUAECIELGEcVBEbBAEBAEBAE",
  "ADAbZNEBEEBBEFbVEJAEdYDEBFEBBECBEZBEECEQDENAECBEGAEPAEbbBCEbWJAdYAAzQBAeNCEbDBEbEBEbEBEcPGEI",
  "AECKEHAABAESbAAeSBEbIAEeOCEEBEJAEGCEEFAfWbHAXBECAEcGAEBIEBAECHEGMEbWbEEbXDEbWAEBEEBAEFAEbOIE",
  "MBEbGDECBEBCEcEAEBBEDAEBCEcGHECBEfWCEBMEBGEEAEGAEDBEhQcLEuEgZAObGETcVAcIqLAcRZABfOAZxVABnAAj",
  "WzLABeAAiVFAECEHGAeXAEdSbFEAtWADYAJDECAAGAAFCAdLBEFAAdMAAhObJAkoIcLAbguIcCAmOCAdRDEAAAAJEABA",
  "bEBEdCBEObHAdYAAeRAEDAEEAEZBEBDAAAELBAcGDAcYBEbARENAEbMHEZKEbUCEbWAECDECBEbNAEcPFECBECBEMAEI",
  "AEbVAEbZAEBCECBEFBEBAEbQBEIAEeLBAeRAECAEEAEbdzSAEfRbGBnZRAcMcKBAbWAbGPEVBAbSABzDAAcKcYADQAdO",
  "AEiSAEAbADeSEEbsNkXBDAAAiQBAOEAbLBCHEAgIBABEEcWBDGAAsPBADEIJCGdBBiAbECBbPBBBEAdBBACEAcRBAKEA",
  "bWBADEAeIBKAEcCOELTAKAECBEKCEbXDECBEHAEcJCEbKEEBHEcKAEMBEcAIEKDECAEdRCECAEBBEGAECAEgBAEDHEVB",
  "EcFBEDAEbLOEhNHECCEBAEXAEdGFEBAEEBEBBEjEDEGBEBBEbBBEdHHECAEBBEbFMAcKAEBAECFEBAEdXCECDEBEEjZI",
  "EBBEjWBEBAEEAEfOHEEAEbGFECBEbOFECDEIAEJFECCEbUMEBBEpQNEdGVECGEBBEBBEeSUEBAEcUBEDAEBAEnJBELBE",
  "cAEEFAEBAEfQbCAhrYAEGOEurQEEcHGEboIAEcLDEdBAABAEbdbKBEgyZcSEuYCERHECGEbEDEcHdKAACEAAAhEdIAcn",
  "PcCEEbXEIAEOAEWUEcaIfNEgEGEoLAEcJDEPAAsYDEbeEhZBAGEcXbHBAGEAbmWBqSwDAcJCAcJAAgWbrZAEfYAElYAd",
  "AnBAMbOAHbTABGAINAEIAHiKA"]

/-- The table of the characters that do not run from left to right. -/
def directions : List Text.ValuedRange := Text.rangesOfLines directionLines

/-- How a character runs. -/
def direction (c : Char) : Direction :=
  match Text.valueIn? directions c with
  | none => .left
  | some 0 => .neutral
  | some 1 => .right
  | some 2 => .arabicNumber
  | some 3 => .number
  | some _ => .mark

/-- Whether a label has a character from right to left or a digit that keeps company with
those; no ASCII character is one. -/
def runsRight (label : List Char) : Bool :=
  label.any fun c => 128 ≤ c.toNat && (direction c = .right || direction c = .arabicNumber)

/-- Whether directions make an order that can be told: the first character tells the direction
of the label, the others are at home in it, and the last one that is no mark is a letter or a
digit. A label from right to left has digits of one kind. -/
def isOrdered (ds : List Direction) : Bool :=
  let last := (ds.reverse.dropWhile (· = .mark)).head?
  match ds.head? with
  | some .left =>
    (ds.all fun d => d ≠ .right && d ≠ .arabicNumber) && (last = some .left || last = some .number)
  | some .right =>
    ds.all (· ≠ .left) && (last.any fun d => d ≠ .neutral) &&
      !(ds.contains .number && ds.contains .arabicNumber)
  | _ => false

/-- Whether the labels of a name can be shown in an order that can be told. -/
def areOrdered (labels : List (List Char)) : Bool :=
  !labels.any runsRight || labels.all fun label => label.isEmpty || isOrdered (label.map direction)

end AnchoredMetadata.Url
