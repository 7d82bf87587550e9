/-!
# Application errors

The errors a handler returns, and the status, code and message of the response
each becomes.
-/

namespace ApiBoilerplate.Http

inductive AppError where
  | database (error : String)
  | ormError (error : String)
  | notFound (message : String)
  | unauthorized (message : String)
  | forbidden (message : String)
  | validation (message : String)
  | internal (message : String)
  deriving DecidableEq, Repr

namespace AppError

def text : AppError → String
  | .database e => "Database error: " ++ e
  | .ormError e => "ORM error: " ++ e
  | .notFound m => "Not found: " ++ m
  | .unauthorized m => "Unauthorized: " ++ m
  | .forbidden m => "Forbidden: " ++ m
  | .validation m => "Validation error: " ++ m
  | .internal m => "Internal error: " ++ m

def statusCode : AppError → Nat
  | .notFound _ => 404
  | .unauthorized _ => 401
  | .forbidden _ => 403
  | .validation _ => 422
  | .database _ | .ormError _ | .internal _ => 500

def code : AppError → String
  | .notFound _ => "NOT_FOUND"
  | .unauthorized _ => "UNAUTHORIZED"
  | .forbidden _ => "FORBIDDEN"
  | .validation _ => "VALIDATION_ERROR"
  | .database _ | .ormError _ | .internal _ => "INTERNAL_SERVER_ERROR"

end AppError

structure ErrorBody where
  error : String
  message : String
  deriving DecidableEq, Repr

def AppError.body (e : AppError) : ErrorBody := ⟨e.code, e.text⟩

end ApiBoilerplate.Http
