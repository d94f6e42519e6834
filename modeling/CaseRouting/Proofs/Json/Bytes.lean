import CaseRouting.Json.Bytes
import CaseRouting.Proofs.Json.Values
import CaseRouting.Proofs.Text.Utf8

/-!
# Reading JSON from well-formed bytes

Bytes that are well-formed UTF-8 are read as their text is, since no character stands in for any of
them. A text of other bytes may be passed over, but it is not read.
-/

namespace CaseRouting

namespace Doc

mutual

theorem common_self : ∀ d : Doc, d.common d = d
  | .null => rfl
  | .bool _ => rfl
  | .number _ => rfl
  | .text s => by rw [common, if_pos rfl]
  | .array ds _ => by rw [common, commonItems_self ds]
  | .object ms _ => by rw [common, commonMembers_self ms]
  | .broken => rfl

theorem commonItems_self : ∀ ds : List Doc, commonItems ds ds = ds
  | [] => rfl
  | d :: ds => by rw [commonItems, common_self d, commonItems_self ds]

theorem commonMembers_self : ∀ ms : List (Doc × Doc), commonMembers ms ms = ms
  | [] => rfl
  | (key, d) :: ms => by rw [commonMembers, common_self key, common_self d, commonMembers_self ms]

end

end Doc

namespace Text

theorem decodeWith_of_decodeUtf8 {bytes : Bytes} {s : String} (h : decodeUtf8 bytes = .ok s)
    (standIn : Char) : decodeWith standIn bytes = s.toList := by
  obtain ⟨cs, hcs, rfl⟩ := map_eq_ok_iff.mp h
  rw [decodeWith, decodeReplacing, hcs, String.toList_ofList]

end Text

namespace Json

variable {α : Type} {decoder : Decoder α} {bytes : Bytes} {s : String}

theorem readBytes_of_decodeUtf8 (h : Text.decodeUtf8 bytes = .ok s) : readBytes bytes = read s := by
  rw [readBytes, Text.decodeWith_of_decodeUtf8 h, Text.decodeWith_of_decodeUtf8 h, Doc.common_self]
  rfl

theorem decodeBytes_of_decodeUtf8 (h : Text.decodeUtf8 bytes = .ok s) :
    decodeBytes decoder bytes = decodeText decoder s := by
  rw [decodeBytes, readBytes_of_decodeUtf8 h]
  rfl

@[simp] theorem decodeBytes_bytesOf (decoder : Decoder α) (s : String) :
    decodeBytes decoder (Text.bytesOf s) = decodeText decoder s :=
  decodeBytes_of_decodeUtf8 (Text.decodeUtf8_bytesOf s)

/-- A byte that is no character, in a text that is passed over and in one that is read. -/
example :
    let bytes (key : String) : Bytes := Text.bytesOf ("\x7b\"" ++ key ++ "\":\"") ++ [0xFF] ++
      Text.bytesOf "\",\"id\":\"QA-1\"\x7d"
    let decoder : Decoder (Option String) :=
      Decode.record "Named" ((Decode.Fields.of id).field (Decode.nullable "name" Decode.text))
    decodeBytes decoder (bytes "note") = .ok none ∧
      decodeBytes decoder (bytes "name") = .error .malformed := by
  decide +kernel

end Json

end CaseRouting
