import FramedHttp.Content.Body
import FramedHttp.Response.Generator

/-!
# Application handlers

An application handles a request by a list of instructions: it looks at the request, reads the body, builds
the response, fails or crashes. An instruction that fails ends the handling with its error, unless the line
it stands on catches errors. Every instruction that answers leaves its answer in a log.
-/

set_option autoImplicit false

namespace FramedHttp

open Content

inductive Instruction where
  | respond (op : ResponseOp)
  | look
  | body (op : BodyOp)
  /-- Read the rest of the body and write it as the response body. -/
  | echo
  | info
  | requestHeader (name : String)
  | fail (error : EngineError)
  | crash
  deriving DecidableEq, Repr

structure HandlerLine where
  instruction : Instruction
  catches : Bool := false
  deriving DecidableEq, Repr

abbrev Handler := List HandlerLine

inductive Answer where
  | done
  | body (answer : BodyAnswer)
  | view (view : ResponseView)
  | request (head : RequestHead)
  | value (text : Option String)
  deriving DecidableEq, Repr

/-- What happens to the octets that an instruction has read. -/
inductive Purpose where
  | answer (op : BodyOp)
  | echo
  deriving DecidableEq, Repr

end FramedHttp
