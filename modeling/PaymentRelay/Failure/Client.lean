import PaymentRelay.Json.Record

/-
  Errors that may be shown to a client.

  Their kind fixes the title and the HTTP status; the code and the detail are free. Wallets send
  such errors as records, and the code of a record alone decides its kind.
-/

namespace PaymentRelay

/-- The kinds of errors that a client may see. -/
inductive ErrorKind where
  | badRequest
  | notFound
  | duplicate
  | notAuthenticated
  | notAuthorised
  | unprocessable
  | notAvailable
  deriving DecidableEq, Repr

namespace ErrorKind

/-- Every kind with its name, in the order of the wire format. -/
def names : List (String × ErrorKind) :=
  [("BadRequest", badRequest), ("NotFound", notFound), ("Duplicate", duplicate),
    ("NotAuthenticated", notAuthenticated), ("NotAuthorised", notAuthorised),
    ("Unprocessable", unprocessable), ("NotAvailable", notAvailable)]

def name : ErrorKind → String
  | badRequest => "BadRequest"
  | notFound => "NotFound"
  | duplicate => "Duplicate"
  | notAuthenticated => "NotAuthenticated"
  | notAuthorised => "NotAuthorised"
  | unprocessable => "Unprocessable"
  | notAvailable => "NotAvailable"

/-- The title of every error of a kind. -/
def title : ErrorKind → String
  | badRequest => "Bad Request"
  | notFound => "Not Found"
  | duplicate => "Conflict"
  | notAuthenticated => "Not Authenticated"
  | notAuthorised => "Permission Denied"
  | unprocessable => "Unprocessable Entity"
  | notAvailable => "Not Available"

/-- The HTTP status of every error of a kind. -/
def status : ErrorKind → Nat
  | badRequest => 400
  | notFound => 404
  | duplicate => 409
  | notAuthenticated => 401
  | notAuthorised => 403
  | unprocessable => 422
  | notAvailable => 503

def decoder : Decoder ErrorKind := .variant names

def encode (k : ErrorKind) : Json := .text k.name

/-- The kind that a wallet means by a code. Wallets use 401 for a lack of rights and 403 for a
lack of authentication. -/
def ofWalletCode (code : String) : ErrorKind :=
  if code = "401" then notAuthorised
  else if code = "403" then notAuthenticated
  else if code = "404" ∨ code = "N0001" then notFound
  else if code = "409" then duplicate
  else if code = "422" then unprocessable
  else badRequest

end ErrorKind

/-- An error as wallets and clients write it. -/
structure ErrorRecord where
  id : String
  code : String
  title : String
  message : String
  deriving DecidableEq, Repr

namespace ErrorRecord

/-- The fields of a record on the wire; all of them may be absent. -/
def record : Record ErrorRecord where
  name := "ClientErrorRecord"
  types := [String, String, String, String]
  fields :=
    .cons (.withDefault "id" .text .text "") <|
    .cons (.withDefault "code" .text .text "") <|
    .cons (.withDefault "title" .text .text "") <|
    .cons (.withDefault "message" .text .text "") .nil
  build := fun (id, code, title, message, ()) => ⟨id, code, title, message⟩
  parts := fun r => (r.id, r.code, r.title, r.message, ())

/-- A record in one line. -/
def text (r : ErrorRecord) : String := "[" ++ r.code ++ "] " ++ r.title ++ ": " ++ r.message

end ErrorRecord

/-- An error that may be shown to a client. -/
structure ClientError where
  /-- Unique to this error, for those who look into it. -/
  id : String
  kind : ErrorKind
  code : String
  detail : String
  deriving DecidableEq, Repr

namespace ClientError

def title (e : ClientError) : String := e.kind.title

def status (e : ClientError) : Nat := e.kind.status

/-- The error that a record of a wallet stands for, under a new id. -/
def ofRecord (id : String) (r : ErrorRecord) : ClientError :=
  ⟨id, .ofWalletCode r.code, r.code, r.message⟩

/-- The record of an error. -/
def toRecord (e : ClientError) : ErrorRecord := ⟨e.id, e.code, e.title, e.detail⟩

/-- An error in one line. -/
def text (e : ClientError) : String := e.title ++ ": " ++ e.detail

end ClientError

end PaymentRelay
