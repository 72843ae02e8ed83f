import Nightjar.Interact.Prog

/-!
# A persistent connection of `http.server`

On one connection the server reads the line and the headers of a request, calls the method for it,
and repeats on the same stream while `close_connection` is false. What a method leaves of a body is
read as the next request. `framed_iff` says when the exchanges are the promised ones: every request
that is reached is answered once, and one that does not close the connection is read to its end.
-/

namespace Python.Http

open Interact

/-- The line and the headers of a request, with the `close_connection` that they set. `C` are the
    commands that the handler has a method for. -/
structure Head (C : Type) where
  command : C
  path : String
  headers : List (String × String)
  closeConnection : Bool
  deriving DecidableEq

/-- `headers.get(name, default)`. -/
def Head.get {C : Type} (head : Head C) (name default : String) : String :=
  let same := fun header : String × String =>
    header.1.toList.map Char.toLower = name.toList.map Char.toLower
  match head.headers.find? fun header => same header with
  | some header => header.2
  | none => default

/-- A request as it is sent. -/
structure Request (C : Type) where
  head : Head C
  headBytes : List UInt8
  body : List UInt8

/-- The bytes of requests that are sent back to back. -/
def stream {C : Type} : List (Request C) → List UInt8
  | [] => []
  | request :: requests => request.headBytes ++ (request.body ++ stream requests)

/-- The state of the connection in a method: the unread stream, the flag, and what was sent. -/
structure Conn (R : Type) where
  rfile : List UInt8
  closeConnection : Bool
  sent : List R

/-- A method of the handler. -/
abbrev Method (R E : Type) : Type := Prog (Conn R) E Unit

/-- What reading the line and the headers of a request gives: the end of the connection, a head
    and the rest of the stream, or something that the server answers itself. -/
inductive Parsed (C R : Type) where
  | ended
  | request (head : Head C) (rest : List UInt8)
  | refused (sent : List R) (next : Option (List UInt8))

/-- One round on a connection: the head that was read, what was sent, and the stream that is left,
    unless the connection is closed. -/
structure Exchange (C R : Type) where
  head : Option (Head C)
  sent : List R
  next : Option (List UInt8)

section Server

variable {C R E : Type} (parse : List UInt8 → Parsed C R)

/-- A method is called. An exception that it lets through ends the connection. -/
def call (method : Method R E) (head : Head C) (rest : List UInt8) : Exchange C R :=
  match method ⟨rest, head.closeConnection, []⟩ with
  | (.ok _, conn) => ⟨some head, conn.sent, if conn.closeConnection then none else some conn.rfile⟩
  | (.error _, conn) => ⟨some head, conn.sent, none⟩

/-- `handle_one_request`; `methods` may depend on how many came before. -/
def handleOne (methods : Nat → Head C → Method R E) (index : Nat) (bytes : List UInt8) :
    Option (Exchange C R) :=
  match parse bytes with
  | .ended => none
  | .request head rest => some (call (methods index head) head rest)
  | .refused sent next => some ⟨none, sent, next⟩

/-- `handle`: the rounds on a stream, at most `fuel`. -/
def exchanges (methods : Nat → Head C → Method R E) :
    Nat → Nat → List UInt8 → List (Exchange C R)
  | 0, _, _ => []
  | fuel + 1, index, bytes =>
    match handleOne parse methods index bytes with
    | none => []
    | some exchange => exchange :: match exchange.next with
      | none => []
      | some rest => exchanges methods fuel (index + 1) rest

end Server

section Framing

variable {C R E : Type} (methods : Nat → Head C → Method R E)

/-- The round of a request by itself. -/
def alone (index : Nat) (request : Request C) : Exchange C R :=
  call (methods index request.head) request.head request.body

/-- What is promised for requests that are sent back to back: the round of each by itself, and then
    the next request, up to the first round that closes the connection. -/
def promised : Nat → List (Request C) → List (Exchange C R)
  | _, [] => []
  | index, request :: requests =>
    let exchange := alone methods index request
    match exchange.next with
    | none => [exchange]
    | some _ => { exchange with next := some (stream requests) } :: promised (index + 1) requests

/-- The server reads the requests that were sent, in order, and answers each once, up to the first
    round that closes the connection. -/
structure Framed (parse : List UInt8 → Parsed C R) (index : Nat) (requests : List (Request C)) :
    Prop where
  exchanges_eq : ∀ fuel, requests.length ≤ fuel →
    exchanges parse methods fuel index (stream requests) = promised methods index requests
  once : ∀ exchange ∈ promised methods index requests, ∃ response, exchange.sent = [response]

/-- A request is settled: it is answered once, and the connection is closed or the body read. -/
def Settled : Nat → List (Request C) → Prop
  | _, [] => True
  | index, request :: requests =>
    (∃ response, (alone methods index request).sent = [response]) ∧
      ((alone methods index request).next = none ∨
        (alone methods index request).next = some [] ∧ Settled (index + 1) requests)

/-- The round when more was sent after the request. -/
def Exchange.before (exchange : Exchange C R) (rest : List UInt8) : Exchange C R :=
  { exchange with next := exchange.next.map (· ++ rest) }

/-- What a method does with a request does not depend on what is sent after it. -/
def Local (method : Method R E) (request : Request C) : Prop :=
  ∀ rest, call method request.head (request.body ++ rest) =
    (call method request.head request.body).before rest

variable {methods} {parse : List UInt8 → Parsed C R} {index : Nat} {request : Request C}
  {requests : List (Request C)}

/-- The first round on a stream. -/
theorem handleOne_stream
    (read : ∀ rest, parse (request.headBytes ++ rest) = .request request.head rest)
    (same : Local (methods index request.head) request) :
    handleOne parse methods index (stream (request :: requests)) =
      some ((alone methods index request).before (stream requests)) := by
  rw [stream, handleOne, read]
  exact congrArg some (same (stream requests))

/-- The rounds on a stream whose first request closes the connection. -/
theorem exchanges_closed
    (read : ∀ rest, parse (request.headBytes ++ rest) = .request request.head rest)
    (same : Local (methods index request.head) request)
    (closed : (alone methods index request).next = none) (fuel : Nat) :
    exchanges parse methods (fuel + 1) index (stream (request :: requests)) =
      [alone methods index request] := by
  rw [exchanges, handleOne_stream read same]
  generalize alone methods index request = exchange at closed ⊢
  obtain ⟨head, sent, next⟩ := exchange
  cases closed
  rfl

variable (requests) in
/-- The rounds on a stream whose first request leaves it open. -/
theorem exchanges_open {left : List UInt8}
    (read : ∀ rest, parse (request.headBytes ++ rest) = .request request.head rest)
    (same : Local (methods index request.head) request)
    (unread : (alone methods index request).next = some left) (fuel : Nat) :
    exchanges parse methods (fuel + 1) index (stream (request :: requests)) =
      { alone methods index request with next := some (left ++ stream requests) } ::
        exchanges parse methods fuel (index + 1) (left ++ stream requests) := by
  rw [exchanges, handleOne_stream read same]
  generalize alone methods index request = exchange at unread ⊢
  obtain ⟨head, sent, next⟩ := exchange
  cases unread
  rfl

/-- **When a connection is framed**: just when every request that is reached is settled. -/
theorem framed_iff (eof : parse [] = .ended)
    (read : ∀ request ∈ requests, ∀ rest,
      parse (request.headBytes ++ rest) = .request request.head rest)
    (same : ∀ index, ∀ request ∈ requests, Local (methods index request.head) request) :
    Framed methods parse index requests ↔ Settled methods index requests := by
  induction requests generalizing index with
  | nil =>
    refine ⟨fun _ => trivial, fun _ => ⟨fun fuel _ => ?_, fun exchange member => nomatch member⟩⟩
    cases fuel with
    | zero => rfl
    | succ fuel => simp [exchanges, handleOne, stream, eof, promised]
  | cons request requests ih =>
    obtain ⟨readFirst, readRest⟩ := List.forall_mem_cons.mp read
    have sameFirst := same index request List.mem_cons_self
    have rest : Framed methods parse (index + 1) requests ↔
        Settled methods (index + 1) requests := ih readRest fun index request member =>
      same index request (List.mem_cons_of_mem _ member)
    cases next : (alone methods index request).next with
    | none =>
      have promise : promised methods index (request :: requests) =
          [alone methods index request] := by simp only [promised, next]
      rw [Settled, next]
      constructor
      · rintro ⟨-, once⟩
        rw [promise] at once
        exact ⟨once _ List.mem_cons_self, Or.inl rfl⟩
      · rintro ⟨once, -⟩
        refine ⟨fun fuel enough => ?_, fun exchange member => ?_⟩
        · obtain ⟨fuel, rfl⟩ := Nat.exists_eq_add_of_le' (Nat.le_trans (Nat.succ_le_succ
            (Nat.zero_le _)) enough)
          rw [promise, exchanges_closed readFirst sameFirst next]
        · rw [promise, List.mem_singleton] at member
          rw [member]
          exact once
    | some left =>
      have promise : promised methods index (request :: requests) =
          { alone methods index request with next := some (stream requests) } ::
            promised methods (index + 1) requests := by simp only [promised, next]
      have rounds := exchanges_open requests readFirst sameFirst next
      rw [Settled, next, ← rest]
      constructor
      · rintro ⟨equal, once⟩
        rw [promise] at once
        obtain ⟨onceFirst, onceRest⟩ := List.forall_mem_cons.mp once
        have step : ∀ fuel, requests.length ≤ fuel → left = [] ∧
            exchanges parse methods fuel (index + 1) (stream requests) =
              promised methods (index + 1) requests := by
          intro fuel enough
          have both := equal (fuel + 1) (Nat.succ_le_succ enough)
          rw [promise, rounds] at both
          obtain ⟨here, later⟩ := List.cons.inj both
          have read : left ++ stream requests = stream requests :=
            Option.some.inj (congrArg Exchange.next here)
          have none := List.append_left_eq_self.mp read
          rw [none] at later
          exact ⟨none, later⟩
        refine ⟨onceFirst, Or.inr ⟨by rw [(step _ (Nat.le_refl _)).1], fun fuel enough => ?_,
          onceRest⟩⟩
        exact (step fuel enough).2
      · rintro ⟨onceFirst, none | ⟨read, framed⟩⟩
        · cases none
        · cases read
          refine ⟨fun fuel enough => ?_, ?_⟩
          · obtain ⟨fuel, rfl⟩ := Nat.exists_eq_add_of_le' (Nat.le_trans (Nat.succ_le_succ
              (Nat.zero_le _)) enough)
            rw [promise, rounds, List.nil_append,
              framed.exchanges_eq fuel (Nat.le_of_succ_le_succ enough)]
          · rw [promise]
            exact List.forall_mem_cons.mpr ⟨onceFirst, framed.once⟩

end Framing

end Python.Http
