import ScanIndex.Block
import ScanIndex.Document

/-!
# Engines for text recognition

An `Engine` recognises the text of a file.  Its answers may change from one call to the next, and a
call may go unanswered.
-/

namespace ScanIndex

/-- Why the text of a file could not be recognised. -/
inductive OcrError where
  /-- The engine could not be asked, or failed to answer. -/
  | unavailable (context : String) (cause : Option String)
  /-- The engine refused the file, or its answer made no sense. -/
  | rejected (context : String) (cause : Option String)
deriving DecidableEq

namespace OcrError

/-- The code of an error. -/
def code : OcrError → String
  | unavailable _ _ => "OCR_UNAVAILABLE"
  | rejected _ _ => "OCR_REJECTED"

/-- The message of an error. -/
def message : OcrError → String
  | unavailable context _ => "ocr service unavailable: " ++ context
  | rejected context _ => "ocr request rejected: " ++ context

/-- The cause of an error, if it is known. -/
def cause : OcrError → Option String
  | unavailable _ cause => cause
  | rejected _ cause => cause

end OcrError

/-- An engine: the answer to the call of a given number for a file, if there ever is one. -/
abbrev Engine := Nat → File → Option (Except OcrError (List Block))

end ScanIndex
