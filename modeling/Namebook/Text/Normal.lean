import Namebook.Text.Ascii
import Namebook.Text.Blank
import Namebook.Text.Lowercase

/-!
The normal forms in which names and record types are compared.
-/

namespace Namebook.Text

/-- DNS names are compared without case and surrounding white space. -/
def normalizeName (s : String) : String := String.ofList (lowercaseChars (trimChars s.toList))

/-- Record types are compared without ASCII case and surrounding white space. -/
def normalizeType (s : String) : String := String.ofList (asciiUpper (trimChars s.toList))

end Namebook.Text
