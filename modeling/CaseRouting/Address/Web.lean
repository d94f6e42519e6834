import CaseRouting.Address.Host
import CaseRouting.Address.Path

/-!
# Web addresses

The parts of an address on the web, brought to one form as they are read, and its text. Addresses of
other kinds are told apart by their scheme and only checked.
-/

namespace CaseRouting.Address

/-- An address with `http` or `https`. The user's name and password are encoded and end with `@`. -/
structure WebAddress where
  secure : Bool
  userInfo : List Char
  host : List Char
  port : Option Nat
  path : List Char
  hasTail : Bool
  deriving DecidableEq

inductive AnyAddress where
  | web (address : WebAddress)
  | other (scheme : String)
  deriving DecidableEq

def endsAuthority (special : Bool) (c : Char) : Bool :=
  c == '/' || c == '?' || c == '#' || (special && c == '\\')

/-- The encoded name and password of a user, with the sign that ends them. -/
def userInfoOf (cs : List Char) : List Char :=
  let name := cs.takeWhile (· ≠ ':')
  let password := (cs.dropWhile (· ≠ ':')).drop 1
  let encoded := encode reservedInUserInfo name ++
    if password.isEmpty then [] else ':' :: encode reservedInUserInfo password
  if encoded.isEmpty then [] else encoded ++ ['@']

/-- An authority as the user before its last `@`, if there is one, and the rest. -/
def splitUser (authority : List Char) : Option (List Char) × List Char :=
  let behind := (authority.reverse.takeWhile (· ≠ '@')).reverse
  if behind.length = authority.length then (none, authority)
  else (some (authority.take (authority.length - behind.length - 1)), behind)

/-- The text before the first colon that is outside of brackets. -/
def hostText (inBrackets : Bool) : List Char → List Char
  | [] => []
  | c :: rest =>
    if c = ':' && !inBrackets then []
    else c :: hostText (c = '[' || (inBrackets && c ≠ ']')) rest

/-- A port; the one that a scheme has anyway is left out. -/
def portOf (usual : Option Nat) (cs : List Char) : Except AddressError (Option Nat) :=
  if !cs.all Char.isDigit then .error .badPort
  else
    let n := Text.numberOf cs
    if 65535 < n then .error .badPort
    else .ok (if cs.isEmpty || usual = some n then none else some n)

/-- The parts of an authority, with the host as it was given. -/
structure Authority where
  userInfo : List Char
  host : List Char
  portText : Option (List Char)

/-- The parts of an authority, which may be `followed` by more of the address. -/
def authorityOf (cs : List Char) (followed : Bool) : Except AddressError Authority :=
  let (user, rest) := splitUser cs
  if user = some [] && rest.isEmpty && followed then .error .noHost
  else
    let host := hostText false rest
    let portText := match rest.drop host.length with
      | _ :: port => some port
      | [] => none
    .ok ⟨userInfoOf (user.getD []), host, portText⟩

/-- The address after the slashes of a special scheme. -/
def readWeb (secure : Bool) (usual : Nat) (cs : List Char) : Except AddressError WebAddress := do
  let rest := cs.dropWhile (!endsAuthority true ·)
  let authority ← authorityOf (cs.takeWhile (!endsAuthority true ·)) (!rest.isEmpty)
  if authority.host.isEmpty then throw .noHost
  let host ← webHost authority.host
  let port ← portOf (some usual) (authority.portText.getD [])
  let path := rest.takeWhile fun c => c != '?' && c != '#'
  pure ⟨secure, authority.userInfo, host, port, pathOf path, path.length < rest.length⟩

/-- Checks an address with a scheme of its own. -/
def checkOther (cs : List Char) : Except AddressError Unit :=
  match cs with
  | '/' :: '/' :: rest => do
    let text := rest.takeWhile (!endsAuthority false ·)
    let authority ← authorityOf text (text.length < rest.length)
    checkOtherHost authority.host
    if authority.host.isEmpty && (authority.portText.isSome || !authority.userInfo.isEmpty) then
      throw .noHost
    let _ ← portOf none ((authority.portText.getD []).takeWhile (· ≠ '\\'))
  | _ => .ok ()

/-- Checks the address of a file. -/
def checkFile (cs : List Char) : Except AddressError Unit :=
  match cs with
  | a :: b :: rest =>
    let host := rest.takeWhile (!endsAuthority true ·)
    let isDrive := host.length = 2 && beginsWithDrive host
    if !isSlash a || !isSlash b || host.isEmpty || isDrive then .ok ()
    else (fun _ => ()) <$> webHost host
  | _ => .ok ()

def isSchemeChar (c : Char) : Bool := c.isAlphanum || c == '+' || c == '-' || c == '.'

/-- The scheme in small letters, and the text after the colon. -/
def splitScheme (cs : List Char) : Option (String × List Char) :=
  match cs with
  | c :: _ =>
    let scheme := cs.takeWhile isSchemeChar
    match cs.drop scheme.length with
    | ':' :: rest => if c.isAlpha then some (Text.asciiLower (.ofList scheme), rest) else none
    | _ => none
  | [] => none

def isMargin (c : Char) : Bool := c.toNat ≤ 0x20

/-- The text without blanks and control characters around it, and without tabs and line breaks. -/
def cleaned (s : String) : List Char :=
  ((s.toList.dropWhile isMargin).reverse.dropWhile isMargin).reverse.filter (!isDropped ·)

/-- Reads an absolute address. -/
def parse (s : String) : Except AddressError AnyAddress :=
  match splitScheme (cleaned s) with
  | none => .error .relative
  | some (scheme, rest) =>
    let body := rest.dropWhile isSlash
    let other (x : Except AddressError Unit) : Except AddressError AnyAddress :=
      (fun _ => .other scheme) <$> x
    let checked (usual : Nat) := other ((fun _ => ()) <$> readWeb false usual body)
    match scheme with
    | "http" => .web <$> readWeb false 80 body
    | "https" => .web <$> readWeb true 443 body
    | "ws" => checked 80
    | "wss" => checked 443
    | "ftp" => checked 21
    | "file" => other (checkFile rest)
    | _ => other (checkOther rest)

namespace WebAddress

def schemeChars (a : WebAddress) : List Char :=
  if a.secure then "https://".toList else "http://".toList

def portChars (a : WebAddress) : List Char :=
  match a.port with
  | some n => ':' :: decimalText n
  | none => []

/-- The text of the address without its user, up to the path. -/
def chars (a : WebAddress) : List Char := a.schemeChars ++ a.host ++ a.portChars ++ a.path

/-- The whole text of an address that ends with its path. -/
def text (a : WebAddress) : String :=
  .ofList (a.schemeChars ++ a.userInfo ++ a.host ++ a.portChars ++ a.path)

/-- The address with segments added to its path, in place of a slash at the end. -/
def extend (a : WebAddress) (segments : List String) : WebAddress :=
  { a with path := segments.foldl pushSegment (dropEndSlash a.path) }

end WebAddress

end CaseRouting.Address
