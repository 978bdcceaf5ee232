import DexBrowser.Text.Hex

/-!
Numbers in base sixteen. Main statement: what is written of a number are a sign, if it is below
zero, and digits in lower case that the number is read back from.
-/

namespace DexBrowser.Text

end DexBrowser.Text
