import CaseRouting.Json.Reader
import CaseRouting.Text.Utf8

/-!
# Reading JSON from bytes

Bytes that need not be well-formed UTF-8. Inside a text any bytes may stand as long as nobody asks
for the text. Such bytes are read twice, with a different character in place of each ill-formed
byte: a text that is not the same both times holds such a byte and denotes no text.
-/

namespace CaseRouting

namespace Doc

mutual

/-- What two documents of one shape have in common. Texts that differ denote no text. -/
def common : Doc → Doc → Doc
  | .text s, .text t => .text (if s = t then s else none)
  | .array ds closed, .array es _ => .array (commonItems ds es) closed
  | .object ms closed, .object ns _ => .object (commonMembers ms ns) closed
  | d, _ => d

def commonItems : List Doc → List Doc → List Doc
  | d :: ds, e :: es => d.common e :: commonItems ds es
  | _, _ => []

def commonMembers : List (Doc × Doc) → List (Doc × Doc) → List (Doc × Doc)
  | (key, d) :: ms, (key', e) :: ns => (key.common key', d.common e) :: commonMembers ms ns
  | _, _ => []

end

end Doc

namespace Json

/-- The document at the head of any bytes, and the text after it. -/
def readBytes (bytes : Bytes) : Doc × List Char :=
  let r := readChars (Text.decodeWith '\uFFFD' bytes)
  (r.1.common (readChars (Text.decodeWith '\uFFFC' bytes)).1, r.2)

def decodeBytes {α : Type} (decoder : Decoder α) (bytes : Bytes) : Decoded α :=
  decodeRead decoder (readBytes bytes)

end Json

end CaseRouting
