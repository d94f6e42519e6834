import CaseRouting.Data.Double
import CaseRouting.Text.Quoted

/-!
# Documents

A document is a tree of plain values as it was read, possibly with places where reading failed: a
faulty part does not spoil the parts before it. A consumer walks the tree in its order and so meets
a fault exactly when everything before it was taken.
-/

namespace CaseRouting

inductive Number where
  | whole (n : Int)
  | real (d : Double)
  deriving DecidableEq

/-- A number is absent when it is too large to be held, a text when its escapes denote no text. An
array or object is open when reading failed after its last part. -/
inductive Doc where
  | null
  | bool (b : Bool)
  | number (n : Option Number)
  | text (s : Option String)
  | array (items : List Doc) (closed : Bool)
  | object (members : List (Doc × Doc)) (closed : Bool)
  | broken

/-- How a document was obtained, on which the treatment of its faults depends: read from text on the
fly, held as a tree of distinct sorted keys, or read from a settings file. -/
inductive Form where
  | stream
  | tree
  | settings
  deriving DecidableEq

namespace Doc

mutual

/-- No part failed to be read. Numbers and texts that cannot be held count as read. -/
def isWhole : Doc → Bool
  | .array items closed => allWhole items && closed
  | .object members closed => membersWhole members && closed
  | .broken => false
  | _ => true

def allWhole : List Doc → Bool
  | [] => true
  | d :: rest => d.isWhole && allWhole rest

def membersWhole : List (Doc × Doc) → Bool
  | [] => true
  | (.text _, d) :: rest => d.isWhole && membersWhole rest
  | _ :: _ => false

end

def ofText (s : String) : Doc := .text (some s)

def ofInt (n : Int) : Doc := .number (some (.whole n))

/-- An object with these members. -/
def ofMembers (members : List (String × Doc)) : Doc :=
  .object (members.map fun m => (ofText m.1, m.2)) true

end Doc

/-- What was found where something else was expected. -/
def Number.found (form : Form) : Number → String
  | .whole n =>
    if -(Int.pow 2 63) ≤ n ∧ n < Int.pow 2 64 then "integer `" ++ toString n ++ "`"
    else "integer `" ++ toString n ++ "` as i128"
  | .real d =>
    "floating point `" ++ (if form = .settings then d.plainText else d.shortText) ++ "`"

end CaseRouting
