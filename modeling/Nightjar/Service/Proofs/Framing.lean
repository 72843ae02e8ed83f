import Nightjar.Service.Proofs.Answers

/-!
# Request framing

A proposal of at most 64 KiB is read to its end and a larger one closes the connection. The other
answers of the handler leave the body of a request on the stream, where it is read as the next
request.
-/

namespace Nightjar

open Python Interact Http Service

section Requests

/-- A request is read as it was sent, and has a body of the length that it declares. -/
structure WellFormed (parse : List UInt8 → Parsed HttpCommand Response)
    (request : Request HttpCommand) : Prop where
  read : ∀ rest, parse (request.headBytes ++ rest) = .request request.head rest
  declared : intOfText (request.head.get "Content-Length" "0") = some (request.body.length : Int)

/-- The one request that the handler reads the body of. -/
def IsProposal (request : Request HttpCommand) : Prop :=
  request.head.command = .post ∧ request.head.path = validatePath

instance (request : Request HttpCommand) : Decidable (IsProposal request) :=
  inferInstanceAs (Decidable (_ ∧ _))

/-- The response closes the connection: the request asks for it, or it is a proposal that is too
    large. -/
def Closes (request : Request HttpCommand) : Prop :=
  request.head.closeConnection = true ∨
    IsProposal request ∧ maxRequestBytes < (request.body.length : Int)

instance (request : Request HttpCommand) : Decidable (Closes request) :=
  inferInstanceAs (Decidable (_ ∨ _))

variable {N : Type} [Field N] [LinearOrder N] [PyMath N] [PyText N] [Crypto]
  (reader : Reader N) (P : Pydantic N) (fresh : Nat → UUID)

/-- Neither `json.loads` nor the validation raises an exception on the body of a proposal that the
    handler lets through. -/
def Answered (index : Nat) (request : Request HttpCommand) : Prop :=
  IsProposal request → (request.body.length : Int) ≤ maxRequestBytes →
    match readPayload reader request.body with
    | .error e => isBodyError e.cls = true
    | .ok payload => ∃ answer, validateMissionPayload P (fresh index) payload none = .ok answer

/-- Up to the first request that closes the connection, every proposal is answered, and every other
    request has no body. -/
def BodiesRead : Nat → List (Request HttpCommand) → Prop
  | _, [] => True
  | index, request :: requests =>
    Answered reader P fresh index request ∧
      (Closes request ∨
        (IsProposal request ∨ request.body = []) ∧ BodiesRead (index + 1) requests)

end Requests

section Rounds

variable {N : Type} [Field N] [LinearOrder N] [PyMath N] [PyText N] [Crypto]
  {reader : Reader N} {P : Pydantic N} {fresh : Nat → UUID} {index : Nat}
  {request : Request HttpCommand}

/-- How the handler goes with a request: what it sends, and what it leaves of the body. -/
structure Goes (reader : Reader N) (P : Pydantic N) (fresh : Nat → UUID) (index : Nat)
    (request : Request HttpCommand) (sent : List Response) (left : Option (List UInt8)) : Prop where
  call_eq : ∀ rest, call (methods reader P fresh index request.head) request.head
    (request.body ++ rest) = ⟨some request.head, sent, left.map (· ++ rest)⟩
  answered : (∃ response, sent = [response]) ↔ Answered reader P fresh index request
  left_eq : Answered reader P fresh index request → left =
    if Closes request then none else if IsProposal request then some [] else some request.body

omit [Field N] [LinearOrder N] [PyMath N] [PyText N] [Crypto] in
/-- A method that sends a response and does nothing else. -/
theorem call_unread {head : Head HttpCommand} {rest : List UInt8} (response : Bool → Response) :
    call (Prog.modify fun conn =>
        { conn with sent := conn.sent ++ [response conn.closeConnection] } : Handling Unit)
        head rest =
      ⟨some head, [response head.closeConnection],
        if head.closeConnection then none else some rest⟩ := rfl

/-- A request that is not a proposal is answered without its body. -/
theorem goes_unread (other : ¬ IsProposal request) (response : Bool → Response)
    (unread : methods reader P fresh index request.head = Prog.modify fun conn =>
      { conn with sent := conn.sent ++ [response conn.closeConnection] }) :
    ∃ sent left, Goes reader P fresh index request sent left := by
  have answered : Answered reader P fresh index request := fun proposal => absurd proposal other
  refine ⟨[response request.head.closeConnection],
    if request.head.closeConnection then none else some request.body, fun rest => ?_,
    iff_of_true ⟨_, rfl⟩ answered, fun _ => ?_⟩
  · rw [unread, call_unread]
    cases request.head.closeConnection <;> rfl
  · simp [Closes, other]

/-- A proposal that is too large is not read. -/
theorem goes_oversized (proposal : IsProposal request)
    (declared : intOfText (request.head.get "Content-Length" "0") =
      some (request.body.length : Int)) (large : maxRequestBytes < (request.body.length : Int)) :
    ∃ sent left, Goes reader P fresh index request sent left := by
  have answered : Answered reader P fresh index request := fun _ small => by omega
  refine ⟨[response 413 (errorBody "size"
    [s!"Request body must be 1 to {maxRequestBytes} bytes."] [] : Json N) true], none,
    fun rest => ?_, iff_of_true ⟨_, rfl⟩ answered, fun _ => ?_⟩
  · simp only [methods, proposal.1, doPost, proposal.2, declared, ne_eq, not_true_eq_false,
      if_false, Option.getD_some, gt_iff_lt, large, or_true, if_true]
    rfl
  · exact (if_pos (Or.inr ⟨proposal, large⟩ : Closes request)).symm

/-- A proposal that is not too large is read to its end. -/
theorem goes_read (proposal : IsProposal request)
    (declared : intOfText (request.head.get "Content-Length" "0") =
      some (request.body.length : Int)) (small : (request.body.length : Int) ≤ maxRequestBytes) :
    ∃ sent left, Goes reader P fresh index request sent left := by
  have closes : Closes request ↔ request.head.closeConnection = true :=
    ⟨fun closes => closes.resolve_right fun large => absurd large.2 (by omega), Or.inl⟩
  have run : ∀ rest, methods reader P fresh index request.head
      ⟨request.body ++ rest, request.head.closeConnection, []⟩ =
        answerBody reader P (fresh index) request.body
          ⟨rest, request.head.closeConnection, []⟩ := by
    intro rest
    simp only [methods, proposal.1]
    exact doPost_read proposal.2 declared small ⟨rest, request.head.closeConnection, []⟩
  have left_eq : ∀ left : Option (List UInt8),
      left = (if request.head.closeConnection then none else some []) →
      left = if Closes request then none else if IsProposal request then some [] else
        some request.body := by
    rintro left rfl
    simp only [closes, proposal, if_true]
  cases payload : readPayload reader request.body with
  | error e =>
    by_cases caught : isBodyError e.cls = true
    · have answered : Answered reader P fresh index request := fun _ _ => by
        rw [payload]
        exact caught
      refine ⟨[response 400 (errorBody "json" [s!"Request body is not valid JSON: {e.text}"] [] :
        Json N) request.head.closeConnection], _, fun rest => ?_, iff_of_true ⟨_, rfl⟩ answered,
        fun _ => left_eq _ rfl⟩
      rw [call, run, answerBody_of_caught _ payload caught]
      cases request.head.closeConnection <;> rfl
    · have refused : ¬ Answered reader P fresh index request := fun answered => by
        have given := answered proposal small
        rw [payload] at given
        exact caught given
      refine ⟨[], none, fun rest => ?_, iff_of_false nofun refused, fun answered =>
        absurd answered refused⟩
      rw [call, run, answerBody_of_uncaught _ payload caught]
      rfl
  | ok value =>
    cases validated : validateMissionPayload P (fresh index) value none with
    | error e =>
      have refused : ¬ Answered reader P fresh index request := fun answered => by
        have given := answered proposal small
        rw [payload] at given
        obtain ⟨answer, given⟩ := given
        rw [validated] at given
        cases given
      refine ⟨[], none, fun rest => ?_, iff_of_false nofun refused, fun answered =>
        absurd answered refused⟩
      rw [call, run, answerBody_of_raised _ payload validated]
      rfl
    | ok answer =>
      have answered : Answered reader P fresh index request := fun _ _ => by
        rw [payload]
        exact ⟨answer, validated⟩
      refine ⟨[response answer.1 answer.2 request.head.closeConnection], _, fun rest => ?_,
        iff_of_true ⟨_, rfl⟩ answered, fun _ => left_eq _ rfl⟩
      rw [call, run, answerBody_of_returned _ payload validated]
      cases request.head.closeConnection <;> rfl

variable (reader P fresh index) in
/-- Every well-formed request goes in some way. -/
theorem exists_goes {parse : List UInt8 → Parsed HttpCommand Response}
    (wellFormed : WellFormed parse request) :
    ∃ sent left, Goes reader P fresh index request sent left := by
  by_cases proposal : IsProposal request
  · rcases le_or_gt (request.body.length : Int) maxRequestBytes with small | large
    · exact goes_read proposal wellFormed.declared small
    · exact goes_oversized proposal wellFormed.declared large
  · cases command : request.head.command with
    | get => exact goes_unread proposal _ (by rw [methods, command]; rfl)
    | options => exact goes_unread proposal (fun _ => preflight) (by rw [methods, command]; rfl)
    | post =>
      have elsewhere : request.head.path ≠ validatePath := fun path => proposal ⟨command, path⟩
      refine goes_unread proposal (response 404 (errorBody "route"
        [s!"Unknown route. The only route is POST {validatePath}."] [] : Json N)) ?_
      rw [methods, command]
      unfold doPost
      rw [if_pos elsewhere]
      rfl

/-- What is left of a request is decided by the request. -/
theorem Goes.alone_next {sent : List Response} {left : Option (List UInt8)}
    (goes : Goes reader P fresh index request sent left) :
    (alone (methods reader P fresh) index request).sent = sent ∧
      (alone (methods reader P fresh) index request).next = left := by
  have whole := goes.call_eq []
  rw [List.append_nil] at whole
  have same : left.map (· ++ []) = left := by simp
  rw [alone, whole]
  exact ⟨rfl, same⟩

theorem Goes.isLocal {sent : List Response} {left : Option (List UInt8)}
    (goes : Goes reader P fresh index request sent left) :
    Local (methods reader P fresh index request.head) request := by
  intro rest
  have whole := goes.call_eq []
  rw [List.append_nil] at whole
  rw [whole, goes.call_eq rest]
  simp [Exchange.before]

end Rounds

section Connection

variable {N : Type} [Field N] [LinearOrder N] [PyMath N] [PyText N] [Crypto]
  {reader : Reader N} {P : Pydantic N} {fresh : Nat → UUID}
  {parse : List UInt8 → Parsed HttpCommand Response}

/-- A request is settled when it is answered, and closes the connection or is read. -/
theorem settled_iff (requests : List (Request HttpCommand)) :
    ∀ index, (∀ request ∈ requests, WellFormed parse request) →
      (Settled (methods reader P fresh) index requests ↔
        BodiesRead reader P fresh index requests) := by
  induction requests with
  | nil => exact fun _ _ => Iff.rfl
  | cons request requests ih =>
    intro index wellFormed
    obtain ⟨first, rest⟩ := List.forall_mem_cons.mp wellFormed
    obtain ⟨sent, left, goes⟩ := exists_goes reader P fresh index first
    obtain ⟨sent_eq, next_eq⟩ := goes.alone_next
    rw [Settled, BodiesRead, sent_eq, next_eq, goes.answered, ih (index + 1) rest]
    refine and_congr_right fun answered => ?_
    rw [goes.left_eq answered]
    by_cases closes : Closes request
    · simp [closes]
    · by_cases proposal : IsProposal request <;> simp [closes, proposal]

/-- **Requests are framed just when their bodies are read.** -/
theorem connection_framed_iff (eof : parse [] = .ended) (requests : List (Request HttpCommand))
    (wellFormed : ∀ request ∈ requests, WellFormed parse request) :
    Framed (methods reader P fresh) parse 0 requests ↔ BodiesRead reader P fresh 0 requests := by
  rw [framed_iff eof (fun request member => (wellFormed request member).read)
    fun index request member => ?_]
  · exact settled_iff requests 0 wellFormed
  · obtain ⟨sent, left, goes⟩ := exists_goes reader P fresh index (wellFormed request member)
    exact goes.isLocal

end Connection

section Sample

attribute [local instance] Crypto.keyless

/-- The lines before the first empty one, and what comes after it. -/
def readLines (line : List Char) : List UInt8 → Option (List (List Char) × List UInt8)
  | [] => none
  | byte :: rest =>
    let c := Char.ofNat byte.toNat
    if c = '\r' then readLines line rest
    else if c ≠ '\n' then readLines (line ++ [c]) rest
    else if line = [] then some ([], rest)
    else (readLines [] rest).map fun read => (line :: read.1, read.2)

/-- The lines do not depend on what is sent after them. -/
theorem readLines_append {bytes : List UInt8} {lines : List (List Char)} :
    ∀ {line : List Char}, readLines line bytes = some (lines, []) →
      ∀ rest, readLines line (bytes ++ rest) = some (lines, rest) := by
  induction bytes generalizing lines with
  | nil => exact fun read => nomatch read
  | cons byte bytes ih =>
    intro line read rest
    unfold readLines at read
    rw [List.cons_append, readLines]
    dsimp only at read ⊢
    split_ifs at read ⊢ with cr other blank
    · exact ih read rest
    · exact ih read rest
    · cases read
      rfl
    · obtain ⟨found, first, last⟩ := Option.map_eq_some_iff.mp read
      obtain ⟨more, left⟩ := found
      cases last
      rw [ih first rest]
      rfl

/-- The command, the path and the headers of some lines. -/
def headOfLines : List (List Char) → Option (Head HttpCommand)
  | line :: headers =>
    match line.splitOn ' ' with
    | [command, path, _] => do
      let command ← match String.ofList command with
        | "GET" => some HttpCommand.get
        | "POST" => some .post
        | "OPTIONS" => some .options
        | _ => none
      some
        { command := command
          path := String.ofList path
          headers := headers.map fun header =>
            (String.ofList (header.takeWhile (· ≠ ':')),
              String.ofList (strip (header.dropWhile (· ≠ ':')).tail))
          closeConnection := headers.contains "Connection: close".toList }
    | _ => none
  | [] => none

/-- What `http.server` reads of the requests below; it closes the connection on anything else. -/
def parseSample (bytes : List UInt8) : Parsed HttpCommand Response :=
  match bytes with
  | [] => .ended
  | _ =>
    match readLines [] bytes with
    | none => .refused [] none
    | some (lines, rest) =>
      match headOfLines lines with
      | none => .refused [] none
      | some head => .request head rest

/-- A request of some text. -/
def sampleRequest (head : Head HttpCommand) (headText body : String) : Request HttpCommand where
  head := head
  headBytes := encodeUtf8 headText
  body := encodeUtf8 body

/-- A request whose lines are those of its head is well formed. -/
theorem wellFormed_sample {request : Request HttpCommand} (lines : List (List Char))
    (nonempty : request.headBytes ≠ []) (read : readLines [] request.headBytes = some (lines, []))
    (head : headOfLines lines = some request.head)
    (declared : intOfText (request.head.get "Content-Length" "0") =
      some (request.body.length : Int)) : WellFormed parseSample request where
  read rest := by
    have stream : ∃ byte bytes, request.headBytes ++ rest = byte :: bytes := by
      cases bytes : request.headBytes with
      | nil => exact absurd bytes nonempty
      | cons byte more => exact ⟨byte, more ++ rest, rfl⟩
    have lines_eq := readLines_append read rest
    obtain ⟨byte, bytes, split⟩ := stream
    rw [split] at lines_eq ⊢
    simp only [parseSample, lines_eq, head]
  declared := declared

/-- `json.loads` on the bodies below. -/
def sampleReader : Reader ℚ where
  loads text := if text = "{}" then .ok (.obj []) else
    .error ⟨.jsonDecodeError, "Expecting value: line 1 column 1 (char 0)"⟩
  decodeError _ := "invalid start byte"

/-- The ids of the sample. -/
def sampleIds (_ : Nat) : UUID := (mavsdkSimulationMission ℚ).missionId

/-- A proposal. -/
def sampleProposal : Request HttpCommand :=
  sampleRequest ⟨.post, validatePath, [("Content-Length", "2")], false⟩
    "POST /v1/missions/validate HTTP/1.1\r\nContent-Length: 2\r\n\r\n" "{}"

/-- A request without a body. -/
def sampleGet : Request HttpCommand :=
  sampleRequest ⟨.get, "/", [], false⟩ "GET / HTTP/1.1\r\n\r\n" ""

theorem wellFormed_sampleProposal : WellFormed parseSample sampleProposal :=
  wellFormed_sample ["POST /v1/missions/validate HTTP/1.1".toList,
    "Content-Length: 2".toList] (by decide +kernel) (by decide +kernel) (by decide +kernel)
    (by decide +kernel)

theorem wellFormed_sampleGet : WellFormed parseSample sampleGet :=
  wellFormed_sample ["GET / HTTP/1.1".toList] (by decide +kernel) (by decide +kernel)
    (by decide +kernel) (by decide +kernel)

theorem answered_sampleProposal (index : Nat) :
    Answered sampleReader samplePydantic sampleIds index sampleProposal := by
  intro _ _
  have payload : readPayload sampleReader sampleProposal.body = .ok (.obj []) := by
    rw [readPayload, sampleProposal, sampleRequest, decodeUtf8_encodeUtf8]
    rfl
  rw [payload]
  exact ⟨_, rfl⟩

/-- A proposal and a request without a body are framed. -/
theorem connection_framed_sample :
    Framed (methods sampleReader samplePydantic sampleIds) parseSample 0
      [sampleProposal, sampleGet, sampleProposal] := by
  refine (connection_framed_iff rfl _ ?_).mpr ?_
  · simp [wellFormed_sampleProposal, wellFormed_sampleGet]
  · have unread : Answered sampleReader samplePydantic sampleIds 1 sampleGet := nofun
    exact ⟨answered_sampleProposal 0, Or.inr ⟨Or.inl ⟨rfl, rfl⟩, unread, Or.inr ⟨Or.inr (by decide),
      answered_sampleProposal 2, Or.inr ⟨Or.inl ⟨rfl, rfl⟩, trivial⟩⟩⟩⟩

/-- A request for another route, with a request in its body. -/
def smuggling : Request HttpCommand :=
  sampleRequest ⟨.post, "/v1/missions/execute", [("Content-Length", "18")], false⟩
    "POST /v1/missions/execute HTTP/1.1\r\nContent-Length: 18\r\n\r\n" "GET / HTTP/1.1\r\n\r\n"

/-- The body is read as a request, and answered. -/
theorem not_framed_smuggling :
    WellFormed parseSample smuggling ∧
      (exchanges parseSample (methods sampleReader samplePydantic sampleIds) 2 0
          (stream [smuggling])).map
          (fun exchange => (exchange.head, exchange.sent.map (·.status))) =
        [(some smuggling.head, [404]), (some sampleGet.head, [405])] ∧
      ¬ Framed (methods sampleReader samplePydantic sampleIds) parseSample 0 [smuggling] := by
  have rounds : (exchanges parseSample (methods sampleReader samplePydantic sampleIds) 2 0
      (stream [smuggling])).map (fun exchange => (exchange.head, exchange.sent.map (·.status))) =
        [(some smuggling.head, [404]), (some sampleGet.head, [405])] := by decide +kernel
  refine ⟨wellFormed_sample ["POST /v1/missions/execute HTTP/1.1".toList,
    "Content-Length: 18".toList] (by decide +kernel) (by decide +kernel) (by decide +kernel)
    (by decide +kernel), rounds, fun framed => ?_⟩
  rw [framed.exchanges_eq 2 (by decide)] at rounds
  have single : (promised (methods sampleReader samplePydantic sampleIds) 0 [smuggling]).length =
      1 := by decide +kernel
  have lengths := congrArg List.length rounds
  rw [List.length_map, single] at lengths
  cases lengths

end Sample

end Nightjar
