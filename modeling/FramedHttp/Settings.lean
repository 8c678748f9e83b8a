import FramedHttp.Message.Method
import FramedHttp.Translate

/-!
# Settings

What every stream of a session is served with. A wait of no time and a response buffer of no size are
refused, the wait first.
-/

set_option autoImplicit false

namespace FramedHttp

structure Settings extends Translator where
  /-- How long a body read waits for bytes. -/
  maxIdle : Duration := .seconds 30
  /-- How many response bytes gather before they are sent without being asked for. -/
  bufferSize : Nat := 16384
  replyVersion : Version := .http11

namespace Settings

def validate (s : Settings) : Except StreamError Settings :=
  if s.maxIdle.isZero then .error (.invalidConfig "max_idle must be non-zero")
  else if s.bufferSize = 0 then .error (.invalidConfig "response_buffer_size must be non-zero")
  else .ok s

end Settings

end FramedHttp
