/-!
# The version
-/

namespace ScanIndex

/-- The version of the program. -/
def version : String := "0.1.0"

end ScanIndex
