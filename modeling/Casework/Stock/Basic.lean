import Casework.Sheet

namespace Casework

open Binary64

/-- These are the sheet sizes and the waste factor of an estimate. -/
structure Stock where
  waste : Amount
  sheets : List Sheet
  deriving DecidableEq

namespace Stock

/-- An estimate adds fifteen hundredths for waste. -/
def standardWaste : Binary64 := .ofRatio false 15 100

/-- Sheets measure four by eight or five by ten feet. -/
def standardSheets : List Sheet :=
  [⟨"standard", .real (.ofInt 1220), .real (.ofInt 2440)⟩,
    ⟨"large", .real (.ofInt 1525), .real (.ofInt 3050)⟩]

def standard : Stock := ⟨.real standardWaste, standardSheets⟩

end Stock

end Casework
