/-!
# Exceptions

The exception classes that the program defines, names in an `except` clause, or can only let
through. The predicates below are the `except` clauses; they follow the class hierarchy, in which
every class but the first three derives from `Exception`.

Where the versions of Python differ, the development follows 3.10 with its security releases, the
oldest that `pyproject.toml` admits: `asyncio.TimeoutError` is a class of its own, and an integer of
more than 4300 digits has no decimal text.
-/

namespace Nightjar

/-- A Python exception class. -/
inductive ExcClass where
  | cancelledError
  | keyboardInterrupt
  | systemExit
  /-- `asyncio.TimeoutError`. -/
  | timeoutError
  | osError
  | valueError
  | typeError
  | indexError
  | overflowError
  | jsonDecodeError
  | unicodeDecodeError
  /-- `pydantic.ValidationError`, a `ValueError`. -/
  | validationError
  | unsupportedAlgorithm
  | invalidSignature
  /-- `sqlite3.IntegrityError`. -/
  | integrityError
  /-- Any other `sqlite3.Error`. -/
  | sqliteError (name : String)
  /-- `approval.py`. -/
  | approvalError
  /-- `replay.py`. -/
  | approvalReplayError
  /-- `mavsdk_executor.py:30-47`. -/
  | mavsdkExecutorError
  | mavsdkPolicyRejectedError
  | homeUnavailableError
  | homeMismatchError
  | unsupportedMavsdkActionError
  /-- Any other subclass of `Exception`. -/
  | other (name : String)
  deriving DecidableEq, Repr

namespace ExcClass

/-- `type(exc).__name__`. -/
def name : ExcClass → String
  | cancelledError => "CancelledError"
  | keyboardInterrupt => "KeyboardInterrupt"
  | systemExit => "SystemExit"
  | timeoutError => "TimeoutError"
  | osError => "OSError"
  | valueError => "ValueError"
  | typeError => "TypeError"
  | indexError => "IndexError"
  | overflowError => "OverflowError"
  | jsonDecodeError => "JSONDecodeError"
  | unicodeDecodeError => "UnicodeDecodeError"
  | validationError => "ValidationError"
  | unsupportedAlgorithm => "UnsupportedAlgorithm"
  | invalidSignature => "InvalidSignature"
  | integrityError => "IntegrityError"
  | sqliteError name => name
  | approvalError => "ApprovalError"
  | approvalReplayError => "ApprovalReplayError"
  | mavsdkExecutorError => "MavsdkExecutorError"
  | mavsdkPolicyRejectedError => "MavsdkPolicyRejectedError"
  | homeUnavailableError => "HomeUnavailableError"
  | homeMismatchError => "HomeMismatchError"
  | unsupportedMavsdkActionError => "UnsupportedMavsdkActionError"
  | other name => name

/-- `except Exception`. -/
def isException : ExcClass → Bool
  | cancelledError | keyboardInterrupt | systemExit => false
  | _ => true

/-- `except (Exception, asyncio.CancelledError)`. -/
def isExceptionOrCancelled : ExcClass → Bool
  | keyboardInterrupt | systemExit => false
  | _ => true

/-- `except (Exception, asyncio.CancelledError, KeyboardInterrupt)`. -/
def isMissionFailure : ExcClass → Bool
  | systemExit => false
  | _ => true

/-- `except OSError`. -/
def isOSError : ExcClass → Bool
  | osError => true
  | _ => false

/-- `except ValueError`. -/
def isValueError : ExcClass → Bool
  | valueError | jsonDecodeError | unicodeDecodeError | validationError | approvalError
  | approvalReplayError => true
  | _ => false

/-- `except sqlite3.Error`. -/
def isSqliteError : ExcClass → Bool
  | integrityError | sqliteError _ => true
  | _ => false

/-- `except MavsdkExecutorError`. -/
def isMavsdkExecutorError : ExcClass → Bool
  | mavsdkExecutorError | mavsdkPolicyRejectedError | homeUnavailableError | homeMismatchError
  | unsupportedMavsdkActionError => true
  | _ => false

/-- A class that the flight code raises of its own accord. -/
def isFlight : ExcClass → Bool
  | mavsdkExecutorError | homeUnavailableError | homeMismatchError | validationError | valueError
  | overflowError | timeoutError => true
  | _ => false

/-- A class that reports the refusal of an authorization (`cli.py:195-200`). -/
def isAuthorization (c : ExcClass) : Bool :=
  c = approvalError || c = approvalReplayError || c.isSqliteError ||
    c = unsupportedMavsdkActionError || c = mavsdkPolicyRejectedError

theorem isException_of_isFlight {c : ExcClass} (flight : c.isFlight = true) :
    c.isException = true := by
  cases c <;> first | rfl | cases flight

theorem isAuthorization_of_isFlight {c : ExcClass} (flight : c.isFlight = true) :
    c.isAuthorization = false := by
  cases c <;> first | rfl | cases flight

theorem isExceptionOrCancelled_of_isException {c : ExcClass} (exception : c.isException = true) :
    c.isExceptionOrCancelled = true := by
  cases c <;> first | rfl | cases exception

theorem isMissionFailure_of_isExceptionOrCancelled {c : ExcClass}
    (caught : c.isExceptionOrCancelled = true) : c.isMissionFailure = true := by
  cases c <;> first | rfl | cases caught

theorem isException_of_isMavsdkExecutorError {c : ExcClass}
    (mavsdk : c.isMavsdkExecutorError = true) : c.isException = true := by
  cases c <;> first | rfl | cases mavsdk

end ExcClass

/-- An exception object: its class and `str(exc)`. -/
structure PyExc where
  cls : ExcClass
  text : String
  deriving DecidableEq, Repr

namespace PyExc

/-- `MavsdkExecutorError(text)`. -/
def mavsdk (text : String) : PyExc := ⟨.mavsdkExecutorError, text⟩

/-- `HomeUnavailableError(text)`. -/
def homeUnavailable (text : String) : PyExc := ⟨.homeUnavailableError, text⟩

/-- `HomeMismatchError(text)`. -/
def homeMismatch (text : String) : PyExc := ⟨.homeMismatchError, text⟩

/-- `ApprovalError(text)`. -/
def approval (text : String) : PyExc := ⟨.approvalError, text⟩

/-- `pydantic.ValidationError` of a model; its message beyond the title is pydantic's. -/
def validation (title : String) : PyExc := ⟨.validationError, "validation error for " ++ title⟩

/-- `ValueError("math domain error")`, of `math.sqrt` and `math.asin`. -/
def mathDomain : PyExc := ⟨.valueError, "math domain error"⟩

/-- The `OverflowError` of `round` on an infinity. -/
def roundInfinity : PyExc := ⟨.overflowError, "cannot convert float infinity to integer"⟩

/-- The `OverflowError` of dividing two `int`s whose quotient is no float. -/
def divOverflow : PyExc := ⟨.overflowError, "integer division result too large for a float"⟩

/-- The `ValueError` of converting a too long `int` to text. -/
def intDigits : PyExc :=
  ⟨.valueError, "Exceeds the limit (4300 digits) for integer string conversion; " ++
    "use sys.set_int_max_str_digits() to increase the limit"⟩

end PyExc

section Bind

variable {ε α β : Type} {r : Except ε α} {f : α → Except ε β}

/-- A sequence that returns has returned from its first part. -/
theorem bind_eq_ok {b : β} (returned : (r >>= f) = .ok b) : ∃ a, r = .ok a ∧ f a = .ok b := by
  cases r with
  | ok a => exact ⟨a, rfl, returned⟩
  | error e => cases returned

/-- A sequence raises in its first part or after it. -/
theorem bind_eq_error {e : ε} (raised : (r >>= f) = .error e) :
    r = .error e ∨ ∃ a, r = .ok a ∧ f a = .error e := by
  cases r with
  | ok a => exact Or.inr ⟨a, rfl, raised⟩
  | error e' =>
    cases raised
    exact Or.inl rfl

end Bind

end Nightjar
