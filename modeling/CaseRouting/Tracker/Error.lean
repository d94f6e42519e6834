/-!
# Faults of requests to the tracker

Why a request fails before its answer is looked at.
-/

namespace CaseRouting.Tracker

inductive RequestError where
  | unsent (url : String)
  | undecodable
  | illFormed
  deriving DecidableEq

def RequestError.message : RequestError → String
  | .unsent url => "error sending request for url (" ++ url ++ ")"
  | .undecodable => "error decoding response body"
  | .illFormed => "builder error"

end CaseRouting.Tracker
