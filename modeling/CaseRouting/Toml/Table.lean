import CaseRouting.Data.Doc

/-!
# Tables of settings

Tables as they grow while settings text is read. A header opens a table once; a table that was only
passed through may be opened later; dotted keys extend only tables that dotted keys made. What is
written as a value is complete and cannot be extended.
-/

namespace CaseRouting.Toml

/-- A table is passed while no header has opened it, and dotted if dotted keys made it. The tables
of a series are in reverse. -/
inductive Entry where
  | value (d : Doc)
  | table (passed dotted : Bool) (members : List (String × Entry))
  | series (tables : List (List (String × Entry)))

abbrev Members := List (String × Entry)

mutual

def Entry.toDoc : Entry → Doc
  | .value d => d
  | .table _ _ ms => .object (membersDoc ms) true
  | .series ts => .array (tablesDoc ts).reverse true

def membersDoc : List (String × Entry) → List (Doc × Doc)
  | [] => []
  | (k, e) :: rest => (.ofText k, e.toDoc) :: membersDoc rest

def tablesDoc : List (List (String × Entry)) → List Doc
  | [] => []
  | ms :: rest => .object (membersDoc ms) true :: tablesDoc rest

end

/-- Puts another entry in place of the one with this key, or a new one at the end. -/
def change (key : String) (f : Option Entry → Option Entry) : Members → Option Members
  | [] => (f none).map fun e => [(key, e)]
  | (k, e) :: rest =>
    if k = key then (f (some e)).map fun e => (k, e) :: rest
    else (change key f rest).map ((k, e) :: ·)

/-- Changes the members of the table at a path; tables on the way are made where there are none.
`leaf` is also told whether its table is dotted. -/
def descend (byDots : Bool) (leaf : Bool → Members → Option Members) :
    List String → Bool → Members → Option Members
  | [], dotted, ms => leaf dotted ms
  | key :: path, _, ms =>
    change key (fun
      | none => (descend byDots leaf path byDots []).map (.table true byDots)
      | some (.table passed dotted sub) =>
        if byDots && !passed then none
        else (descend byDots leaf path dotted sub).map (.table passed dotted)
      | some (.series (last :: others)) =>
        (descend byDots leaf path false last).map fun ms => .series (ms :: others)
      | some _ => none) ms

/-- Gives a key its value in a table. -/
def assignIn (path : List String) (key : String) (d : Doc) (dotted : Bool) (ms : Members) :
    Option Members :=
  descend true (fun dotted ms =>
    if dotted == path.isEmpty then none
    else change key (fun
      | none => some (.value d)
      | some _ => none) ms) path dotted ms

/-- Gives a key its value in the table that a header opened. -/
def assign (header path : List String) (key : String) (d : Doc) (root : Members) :
    Option Members :=
  descend false (assignIn path key d) header false root

/-- Opens a table. -/
def openTable (path : List String) (key : String) (root : Members) : Option Members :=
  descend false (fun _ ms => change key (fun
    | none => some (.table false false [])
    | some (.table true false sub) => some (.table false false sub)
    | some _ => none) ms) path false root

/-- Opens a further table of a series. -/
def openSeries (path : List String) (key : String) (root : Members) : Option Members :=
  descend false (fun _ ms => change key (fun
    | none => some (.series [[]])
    | some (.series ts) => some (.series ([] :: ts))
    | some _ => none) ms) path false root

end CaseRouting.Toml
