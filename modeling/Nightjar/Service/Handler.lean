import Nightjar.Python.Ascii
import Nightjar.Python.HttpServer
import Nightjar.Service

/-!
# The request handler of the service

`ValidationRequestHandler` (`service.py:90-183`): what each method reads from the connection and
sends. Writing to the connection succeeds. A response is what the handler itself puts in it.
-/

namespace Nightjar

open Python Interact Http

/-- The methods that the handler has. -/
inductive HttpCommand where
  | get
  | post
  | options
  deriving DecidableEq, Repr

/-- A response. -/
structure Response where
  status : Nat
  headers : List (String × String)
  body : List UInt8
  deriving DecidableEq

/-- A program on a connection. -/
abbrev Handling (α : Type) : Type := Prog (Conn Response) PyExc α

namespace Service

variable {N : Type} [PyText N]

/-- The response of `_respond`; `close` is `close_connection`. -/
def response (status : Nat) (body : Json N) (close : Bool) : Response :=
  let encoded := encodeUtf8 (String.ofList (body.render Json.ascii))
  { status := status
    headers := [("Content-Type", "application/json"),
      ("Content-Length", toString encoded.length), ("Access-Control-Allow-Origin", "*"),
      ("X-Content-Type-Options", "nosniff"), ("Cache-Control", "no-store")] ++
        if close then [("Connection", "close")] else []
    body := encoded }

/-- `_respond` (`service.py:96-111`). -/
def respond (status : Nat) (body : Json N) : Handling Unit :=
  Prog.modify fun conn =>
    { conn with sent := conn.sent ++ [response status body conn.closeConnection] }

omit [PyText N] in
/-- `self.rfile.read(length)`. -/
def readBytes (length : Nat) : Handling (List UInt8) := fun conn =>
  (.ok (conn.rfile.take length), { conn with rfile := conn.rfile.drop length })

/-- The answer to a preflight request. -/
def preflight : Response where
  status := 204
  headers := [("Access-Control-Allow-Origin", "*"),
    ("Access-Control-Allow-Methods", "POST, OPTIONS"),
    ("Access-Control-Allow-Headers", "Content-Type"), ("Cache-Control", "no-store"),
    ("Content-Length", "0")]
  body := []

/-- `do_OPTIONS` (`service.py:113-120`). -/
def doOptions : Handling Unit :=
  Prog.modify fun conn => { conn with sent := conn.sent ++ [preflight] }

variable (N)

/-- `do_GET` (`service.py:122-132`). -/
def doGet : Handling Unit :=
  respond 405 (errorBody "method" [s!"Use POST {validatePath}."] [] : Json N)

variable {N} [Field N] [LinearOrder N] [PyMath N] [Crypto] (reader : Reader N) (P : Pydantic N)

/-- `except (UnicodeDecodeError, json.JSONDecodeError)`. -/
def isBodyError (c : ExcClass) : Bool := c = .unicodeDecodeError || c = .jsonDecodeError

/-- `json.loads(data.decode("utf-8"))`. -/
def readPayload (data : List UInt8) : Except PyExc (Loaded N) :=
  match decodeUtf8 data with
  | none => .error ⟨.unicodeDecodeError, reader.decodeError data⟩
  | some text => reader.loads text

/-- `do_POST` (`service.py:134-183`). `fresh` is `uuid4()` at the call. -/
def doPost (fresh : UUID) (head : Head HttpCommand) : Handling Unit :=
  if head.path ≠ validatePath then
    respond 404 (errorBody "route" [s!"Unknown route. The only route is POST {validatePath}."] [] :
      Json N)
  else
    let length := (intOfText (head.get "Content-Length" "0")).getD (-1)
    if length < 0 ∨ length > maxRequestBytes then do
      Prog.modify fun conn => { conn with closeConnection := true }
      respond 413 (errorBody "size" [s!"Request body must be 1 to {maxRequestBytes} bytes."] [] :
        Json N)
    else do
      let data ← readBytes length.toNat
      match readPayload reader data with
      | .error e =>
        if isBodyError e.cls then
          respond 400 (errorBody "json" [s!"Request body is not valid JSON: {e.text}"] [] : Json N)
        else Prog.raise e
      | .ok payload => do
        let answer ← Prog.lift (validateMissionPayload P fresh payload none)
        respond answer.1 answer.2

/-- The method for a request. `fresh` is the source of `uuid4()`. -/
def methods (fresh : Nat → UUID) (index : Nat) (head : Head HttpCommand) : Handling Unit :=
  match head.command with
  | .get => doGet N
  | .options => doOptions
  | .post => doPost reader P (fresh index) head

end Service

end Nightjar
