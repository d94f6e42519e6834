import CaseRouting.Address.Web
import CaseRouting.Fault
import CaseRouting.Files.Path

/-!
# Checks of single settings

Each check names the field it is about, and its fault tells the value that was refused.
-/

namespace CaseRouting.Settings

open Address (WebAddress)

/-- An absolute web address that ends with its path. -/
def checkBaseUrl (field value : String) : Except Fault WebAddress :=
  let refuse (reason : String) : Except Fault WebAddress := .error (.badSetting field value reason)
  if Text.isBlankText value then refuse "URL cannot be empty"
  else match Address.parse value with
    | .error e => refuse ("Invalid URL format: " ++ e.message)
    | .ok (.other scheme) => refuse ("Unsupported URL scheme: " ++ scheme)
    | .ok (.web address) =>
      if address.hasTail then refuse "Base URL cannot carry a query string or fragment"
      else .ok address

def checkPath (field value : String) : Except Fault Unit :=
  if Text.isBlankText value then .error (.badSetting field value "Path cannot be empty")
  else if value.toList.contains '\x00' then
    .error (.badSetting field value "Path contains null bytes")
  else .ok ()

/-- The name at the end of a path has one of the allowed extensions, in any case of letters. -/
def checkExtension (field value : String) (allowed : List String) : Except Fault Unit :=
  match Files.extension? value with
  | none => .error (.badSetting field value "File has no extension or invalid filename")
  | some extension =>
    if allowed.contains (Text.asciiLower extension) then .ok ()
    else .error (.badSetting field value
      ("Unsupported file extension: " ++ extension ++ ". Allowed extensions: " ++
        ", ".intercalate allowed))

def checkPresent {α : Type} (field : String) : Option α → Except Fault α
  | some a => .ok a
  | none => .error (.missingSetting field)

def checkNotBlank (field value : String) : Except Fault Unit :=
  if Text.isBlankText value then
    .error (.badSetting field value "Value cannot be empty or whitespace-only")
  else .ok ()

def checkRange (field : String) (value low high : Int) : Except Fault Unit :=
  if value < low ∨ high < value then
    .error (.badSetting field (toString value)
      ("Value must be between " ++ toString low ++ " and " ++ toString high))
  else .ok ()

end CaseRouting.Settings
