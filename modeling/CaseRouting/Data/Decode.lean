import CaseRouting.Data.Doc

/-!
# Decoding documents

Typed values out of documents. A record is read from an object, whose members may come in any order
and among unknown ones, or from an array with the fields in their order. `Fields` lists the fields
of a record once, for both ways.
-/

namespace CaseRouting

inductive DecodeError where
  | malformed
  | wrongType (found expected : String)
  | wrongValue (found expected : String)
  | wrongLength (length : Nat) (expected : String)
  | missingField (name : String)
  | duplicateField (name : String)
  | unknownVariant (name : String) (known : List String)
  | refused (reason : String)
  deriving DecidableEq

namespace DecodeError

def listed (names : List String) : String :=
  ", ".intercalate (names.map fun n => "`" ++ n ++ "`")

/-- A text that is not even well formed has one fixed message. -/
def message : DecodeError → String
  | .malformed => "<syntax>"
  | .wrongType found expected => "invalid type: " ++ found ++ ", expected " ++ expected
  | .wrongValue found expected => "invalid value: " ++ found ++ ", expected " ++ expected
  | .wrongLength n expected => "invalid length " ++ toString n ++ ", expected " ++ expected
  | .missingField name => "missing field `" ++ name ++ "`"
  | .duplicateField name => "duplicate field `" ++ name ++ "`"
  | .unknownVariant name known =>
    "unknown variant `" ++ name ++ "`, expected one of " ++ listed known
  | .refused reason => reason

end DecodeError

abbrev Decoded (α : Type) := Except DecodeError α

abbrev Decoder (α : Type) := Form → Doc → Decoded α

namespace Decode

/-- The error for a document that is none of what was expected. -/
def mismatch (form : Form) (expected : String) : Doc → DecodeError
  | .null => .wrongType "null" expected
  | .bool b => .wrongType ("boolean `" ++ (if b then "true" else "false") ++ "`") expected
  | .number (some n) => .wrongType (n.found form) expected
  | .text (some s) => .wrongType ("string " ++ Text.quoted s) expected
  | .array _ _ => .wrongType "sequence" expected
  | .object _ _ => .wrongType "map" expected
  | .number none => .malformed
  | .text none => .malformed
  | .broken => .malformed

/-- A text, where something that is written as a text was expected. -/
def textFor (expected : String) : Decoder String
  | _, .text (some s) => .ok s
  | form, d => .error (mismatch form expected d)

def text : Decoder String := textFor "a string"

def bool : Decoder Bool
  | _, .bool b => .ok b
  | form, d => .error (mismatch form "a boolean" d)

/-- A natural below `limit`. -/
def natural (limit : Nat) (expected : String) : Decoder Nat
  | form, .number (some (.whole n)) =>
    if 0 ≤ n ∧ n < limit then .ok n.toNat
    else if -(Int.pow 2 63) ≤ n ∧ n < Int.pow 2 64 then
      .error (.wrongValue ((Number.whole n).found form) expected)
    else .error (mismatch form expected (.ofInt n))
  | form, d => .error (mismatch form expected d)

/-- An absent value is written `null`. -/
def optional {α : Type} (item : Decoder α) : Decoder (Option α)
  | _, .null => .ok none
  | form, d => some <$> item form d

def items {α : Type} (item : Decoder α) (form : Form) : List Doc → Decoded (List α)
  | [] => .ok []
  | d :: rest => do
    let a ← item form d
    let as ← items item form rest
    pure (a :: as)

def list {α : Type} (item : Decoder α) : Decoder (List α)
  | form, .array ds closed => do
    let as ← items item form ds
    if closed then pure as else throw .malformed
  | form, d => .error (mismatch form "a sequence" d)

/-- A value that is written as one of some words. -/
def choice {α : Type} (known : List (String × α)) (name : String) : Decoded α :=
  match known.find? (·.1 == name) with
  | some (_, a) => .ok a
  | none => .error (.unknownVariant name (known.map (·.1)))

def unit (form : Form) : Doc → Decoded Unit
  | .null => .ok ()
  | d => .error (mismatch form "unit" d)

/-- A word by itself, or as the only key of an object with nothing as its value. -/
def variant {α : Type} (known : List (String × α)) : Decoder α
  | _, .text (some s) => choice known s
  | .stream, .object ((key, value) :: rest) closed => do
    let name ← textFor "variant identifier" .stream key
    let a ← choice known name
    unit .stream value
    if rest.isEmpty && closed then pure a else throw .malformed
  | .stream, _ => .error .malformed
  | form, .object [(.text (some name), value)] _ => do
    let a ← choice known name
    unit form value
    pure a
  | _, .object _ _ => .error (.wrongValue "map" "map with a single key")
  | form, d => .error (mismatch form "string or map" d)

/-- How a field that no member gives is filled: not at all, as `null`, or by a default that an array
may leave out as well. -/
inductive Absence (α : Type) where
  | refused
  | filled (value : α)
  | defaulted (value : α)

structure Field (α : Type) where
  name : String
  decoder : Decoder α
  absence : Absence α

def required {α : Type} (name : String) (decoder : Decoder α) : Field α := ⟨name, decoder, .refused⟩

def nullable {α : Type} (name : String) (decoder : Decoder α) : Field (Option α) :=
  ⟨name, optional decoder, .filled none⟩

def defaulted {α : Type} (name : String) (value : α) (decoder : Decoder α) : Field α :=
  ⟨name, decoder, .defaulted value⟩

/-- A record's parts, by name or by place. -/
inductive Parts where
  | named (members : List (String × Doc))
  | placed (items : List Doc) (closed : Bool)

/-- What is expected of an array that stands for a record. -/
def arity (record : String) (count : Nat) : String :=
  record ++ " with " ++ toString count ++ " element" ++ if count = 1 then "" else "s"

/-- The value of a field, where `expected` describes the record. -/
def Field.value {α : Type} (f : Field α) (form : Form) (index : Nat) (expected : String) :
    Parts → Decoded α
  | .named members =>
    match members.find? (·.1 == f.name) with
    | some (_, d) => f.decoder form d
    | none =>
      match f.absence with
      | .refused => .error (.missingField f.name)
      | .filled a => .ok a
      | .defaulted a => .ok a
  | .placed ds closed =>
    match ds[index]? with
    | some d => f.decoder form d
    | none =>
      if !closed then .error .malformed
      else match f.absence with
        | .defaulted a => .ok a
        | _ => .error (.wrongLength index expected)

/-- The fields of a record, each with a check of its value, and the record that they make up. -/
structure Fields (α : Type) where
  checks : List (String × (Form → Doc → Decoded Unit))
  build : Form → String → Parts → Decoded α

namespace Fields

/-- No fields yet. -/
def of {α : Type} (a : α) : Fields α := ⟨[], fun _ _ _ => .ok a⟩

/-- One more field. -/
def field {α β : Type} (fs : Fields (α → β)) (f : Field α) : Fields β where
  checks := fs.checks ++ [(f.name, fun form d => (fun _ => ()) <$> f.decoder form d)]
  build form expected parts := do
    let make ← fs.build form expected parts
    let a ← f.value form fs.checks.length expected parts
    pure (make a)

/-- Walks the members in their order: a known one must decode and come once, an unknown one must be
whole. -/
def walk {α : Type} (fs : Fields α) (form : Form) (seen : List String) (closed : Bool) :
    List (Doc × Doc) → Decoded (List (String × Doc))
  | [] => if closed then .ok [] else .error .malformed
  | (.text (some key), d) :: rest =>
    match fs.checks.find? (·.1 == key) with
    | some (_, check) => do
      if seen.contains key then throw (.duplicateField key)
      check form d
      let ms ← fs.walk form (key :: seen) closed rest
      pure ((key, d) :: ms)
    | none => if d.isWhole then fs.walk form seen closed rest else .error .malformed
  | _ :: _ => .error .malformed

end Fields

/-- The members in the order of their keys, the last one of each key. -/
def sortedMembers (members : List (Doc × Doc)) : List (Doc × Doc) :=
  let named := members.filterMap fun m => match m.1 with
    | .text (some key) => some (key, m.2)
    | _ => none
  let kept := named.foldr
    (fun m later => if later.any (·.1 == m.1) then later else m :: later) []
  (kept.mergeSort fun a b => decide (a.1 ≤ b.1)).map fun m => (.ofText m.1, m.2)

def membersIn (form : Form) (members : List (Doc × Doc)) : List (Doc × Doc) :=
  if form = .stream then members else sortedMembers members

/-- A record of the given name. -/
def record {α : Type} (name : String) (fs : Fields α) : Decoder α
  | form, .object members closed => do
    let known ← fs.walk form [] closed (membersIn form members)
    fs.build form "" (.named known)
  | form, .array ds closed => do
    let count := fs.checks.length
    let a ← fs.build form (arity ("struct " ++ name) count) (.placed ds closed)
    match form with
    | .stream => if closed && ds.length ≤ count then pure a else throw .malformed
    | .tree =>
      if ds.length ≤ count then pure a
      else throw (.wrongLength ds.length "fewer elements in array")
    | .settings => pure a
  | form, d => .error (mismatch form ("struct " ++ name) d)

end Decode

end CaseRouting
