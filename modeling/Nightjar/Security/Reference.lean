import Nightjar.Python.Sha256
import Nightjar.Security

/-!
# A reference for the cryptography

One instance of the parameters of `Crypto`, on which the program can be evaluated: SHA-256 itself,
and a tag in place of Ed25519, which signs and verifies with the same secret. The verifying key may
also carry which data its holder has signed, and then verifies only those.
-/

namespace Nightjar

open Python

/-- The tag of some data: the digits of its digest, one to a byte. -/
def referenceTag (data : List UInt8) : { signature : List UInt8 // signature.length = 64 } :=
  ⟨(sha256 data).val.map fun digit => digit.val.toUInt8, by
    rw [List.length_map, (sha256 data).property]⟩

/-- Keys that verify what they hold to be signed. -/
@[reducible] def Crypto.reference (Key : Type) (holds : Key → List UInt8 → Bool) : Crypto where
  sha256 := Python.sha256
  PrivateKey := Key
  PublicKey := Key
  publicKey := id
  sign _ data := referenceTag data
  verify key signature data := holds key data && signature == (referenceTag data).val

/-- A key that holds all data to be signed verifies every signature. -/
theorem verify_sign_reference {Key : Type} {holds : Key → List UInt8 → Bool} {key : Key}
    {data : List UInt8} (held : holds key data = true) :
    (Crypto.reference Key holds).verify key ((Crypto.reference Key holds).sign key data).val data =
      true := by
  show (holds key data && (referenceTag data).val == (referenceTag data).val) = true
  rw [held, beq_self_eq_true]
  rfl

/-- One key, which holds all data to be signed. -/
@[reducible] def Crypto.keyless : Crypto := .reference Unit fun _ _ => true

end Nightjar
