import FramedHttp.Error

/-!
# Status codes

A status is a code from 100 to 599. The first digit is its class; the usual codes have a reason phrase
of their own.
-/

set_option autoImplicit false

namespace FramedHttp

structure Status where
  code : Nat
  least : 100 ≤ code := by decide
  below : code < 600 := by decide
  deriving DecidableEq, Repr

namespace Status

def ofCode (code : Nat) : Except EngineError Status :=
  if h : 100 ≤ code ∧ code < 600 then .ok ⟨code, h.1, h.2⟩
  else .error (.invalidStatus ("Invalid status code: " ++ toString code))

theorem ofCode_code (s : Status) : ofCode s.code = .ok s :=
  dif_pos ⟨s.least, s.below⟩

theorem code_of_ofCode {code : Nat} {s : Status} (h : ofCode code = .ok s) : s.code = code := by
  unfold ofCode at h
  split at h
  · cases h
    rfl
  · cases h

def ok : Status := { code := 200 }

def badRequest : Status := { code := 400 }

def internalServerError : Status := { code := 500 }

def reasonOf : Nat → String
  | 100 => "Continue"
  | 101 => "Switching Protocols"
  | 200 => "OK"
  | 201 => "Created"
  | 202 => "Accepted"
  | 204 => "No Content"
  | 206 => "Partial Content"
  | 301 => "Moved Permanently"
  | 302 => "Found"
  | 303 => "See Other"
  | 304 => "Not Modified"
  | 307 => "Temporary Redirect"
  | 308 => "Permanent Redirect"
  | 400 => "Bad Request"
  | 401 => "Unauthorized"
  | 403 => "Forbidden"
  | 404 => "Not Found"
  | 405 => "Method Not Allowed"
  | 408 => "Request Timeout"
  | 411 => "Length Required"
  | 413 => "Payload Too Large"
  | 414 => "URI Too Long"
  | 415 => "Unsupported Media Type"
  | 417 => "Expectation Failed"
  | 500 => "Internal Server Error"
  | 501 => "Not Implemented"
  | 502 => "Bad Gateway"
  | 503 => "Service Unavailable"
  | 504 => "Gateway Timeout"
  | 505 => "HTTP Version Not Supported"
  | _ => "Unknown"

def reason (s : Status) : String :=
  reasonOf s.code

def line (s : Status) : String :=
  toString s.code ++ " " ++ s.reason

def isInformational (s : Status) : Bool := s.code / 100 == 1

def isSuccess (s : Status) : Bool := s.code / 100 == 2

def isClientError (s : Status) : Bool := s.code / 100 == 4

def isServerError (s : Status) : Bool := s.code / 100 == 5

/-- A response with this status ends with its header section. -/
def isBodiless (s : Status) : Bool :=
  s.isInformational || s.code == 204 || s.code == 304

end Status

/-- The status with which a failure is answered. -/
def StreamError.status : StreamError → Status
  | .malformedRequest _ => .badRequest
  | _ => .internalServerError

end FramedHttp
