/-!
# Errors

1. A `StoreError` says why a store call failed.
2. A `ServiceError` is what a caller of a service is told. Every failure of a store call becomes
   one by `ServiceError.ofStore`, the same everywhere.
-/

namespace ChatLedger

/-- Why a store call failed. -/
inductive StoreError where
  | connection (reason : String)
  | query (reason : String)
  | notFound
  /-- A record with the same key exists, or another writer came first. -/
  | conflict (reason : String)
  deriving Repr, DecidableEq

/-- The text of a failure. -/
def StoreError.message : StoreError → String
  | .connection reason => "database connection error: " ++ reason
  | .query reason => "query error: " ++ reason
  | .notFound => "entity not found"
  | .conflict reason => "conflict: " ++ reason

/-- What a caller of a service is told. -/
inductive ServiceError where
  | notFound (what : String)
  | permissionDenied (reason : String)
  | alreadyExists (what : String)
  | conflict (reason : String)
  | validationFailed (reason : String)
  | storeUnavailable (reason : String)
  deriving Repr, DecidableEq

namespace ServiceError

/-- The word for the kind of error. -/
def kind : ServiceError → String
  | .notFound _ => "not_found"
  | .permissionDenied _ => "permission_denied"
  | .alreadyExists _ => "already_exists"
  | .conflict _ => "conflict"
  | .validationFailed _ => "validation_failed"
  | .storeUnavailable _ => "store_unavailable"

/-- The text of an error. -/
def message : ServiceError → String
  | .notFound what => "not found: " ++ what
  | .permissionDenied reason => "permission denied: " ++ reason
  | .alreadyExists what => "already exists: " ++ what
  | .conflict reason => "conflict: " ++ reason
  | .validationFailed reason => "validation failed: " ++ reason
  | .storeUnavailable reason => "store unavailable: " ++ reason

/-- The same call may succeed later without any change to it. -/
def isRetryable : ServiceError → Bool
  | .storeUnavailable _ => true
  | _ => false

/-- What the failure of a store call is to the caller. -/
def ofStore (error : StoreError) : ServiceError :=
  match error with
  | .notFound => .notFound error.message
  | .conflict reason => .conflict reason
  | .connection reason | .query reason => .storeUnavailable reason

end ServiceError

end ChatLedger
