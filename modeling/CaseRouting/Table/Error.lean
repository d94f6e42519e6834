/-!
# Faults of the database

Why a statement on the table of test cases fails.
-/

namespace CaseRouting.Table

inductive TableError where
  | columnType (index : Nat) (name kind : String)
  | locked
  | cannotOpen (path : String)
  | notDatabase
  | nullInPath (position : Nat)
  | badParameter (name : String)
  | other (message : String)
  deriving DecidableEq

def TableError.message : TableError → String
  | .columnType index name kind =>
    "Invalid column type " ++ kind ++ " at index: " ++ toString index ++ ", name: " ++ name
  | .locked => "database is locked"
  | .cannotOpen path => "unable to open database file: " ++ path
  | .notDatabase => "file is not a database"
  | .nullInPath position =>
    "nul byte found in provided data at position: " ++ toString position
  | .badParameter name => "Invalid parameter name: " ++ name
  | .other message => message

end CaseRouting.Table
