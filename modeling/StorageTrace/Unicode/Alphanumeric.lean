import StorageTrace.Unicode.Alphabetic
import StorageTrace.Unicode.Numeric

/-! # Letters and numbers

The characters that are letters or numbers, as those that names are made of.
-/

namespace StorageTrace

namespace Unicode

def isAlphanumeric (c : Char) : Bool := isAlphabetic c || isNumeric c

end Unicode

end StorageTrace
