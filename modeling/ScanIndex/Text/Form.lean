import ScanIndex.Text.Percent
import ScanIndex.Text.Pieces

/-!
# Forms

A form is a text that lists fields, each a name and a value, in the encoding of forms: fields stand
between ampersands, a plus sign is a blank, and other characters may be percent-encoded.
-/

namespace ScanIndex

/-- The text that a piece of a form stands for. -/
def formText (cs : List Char) : String :=
  Utf8.decodeLossy (percentDecode (spaced (Utf8.encode (String.ofList cs))))

/-- The fields of a form. -/
def formFields (form : String) : List (String × String) :=
  ((pieces '&' form.toList).filter fun p => !p.isEmpty).map fun p =>
    let (name, value) := splitFirst '=' p
    (formText name, formText (value.getD []))

end ScanIndex
