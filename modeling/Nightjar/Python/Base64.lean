import Mathlib.Data.List.Basic

/-!
# `base64.b64encode` and `base64.b64decode(s, validate=True)`

Three bytes are written as four characters, a shorter last group is padded with `=`. Decoding
with `validate=True` first demands the shape `[A-Za-z0-9+/]*={0,2}` and then reads the data
characters four at a time; leftover bits of a short last group are dropped, its padding must be
there, and padding after a full group is ignored. `decode_encode` is the round trip.
-/

namespace Python

namespace Base64

/-- The alphabet, by value. -/
def encodeDigit (n : Nat) : Char :=
  if n < 26 then Char.ofNat (65 + n)
  else if n < 52 then Char.ofNat (97 + (n - 26))
  else if n < 62 then Char.ofNat (48 + (n - 52))
  else if n = 62 then '+' else '/'

/-- The value of a character of the alphabet. -/
def decodeDigit (c : Char) : Option Nat :=
  if 65 ≤ c.toNat ∧ c.toNat ≤ 90 then some (c.toNat - 65)
  else if 97 ≤ c.toNat ∧ c.toNat ≤ 122 then some (c.toNat - 97 + 26)
  else if 48 ≤ c.toNat ∧ c.toNat ≤ 57 then some (c.toNat - 48 + 52)
  else if c = '+' then some 62
  else if c = '/' then some 63
  else none

/-- `base64.b64encode`, decoded as ASCII text. -/
def encode : List UInt8 → List Char
  | [] => []
  | [a] => [encodeDigit (a.toNat / 4), encodeDigit (a.toNat % 4 * 16), '=', '=']
  | [a, b] => [encodeDigit (a.toNat / 4), encodeDigit (a.toNat % 4 * 16 + b.toNat / 16),
      encodeDigit (b.toNat % 16 * 4), '=']
  | a :: b :: c :: rest =>
      encodeDigit (a.toNat / 4) :: encodeDigit (a.toNat % 4 * 16 + b.toNat / 16) ::
        encodeDigit (b.toNat % 16 * 4 + c.toNat / 64) :: encodeDigit (c.toNat % 64) ::
        encode rest

/-- The bytes of the data characters, given the number of `=` after them. -/
def decodeGroups (pads : Nat) : List Nat → Option (List UInt8)
  | [] => some []
  | [_] => none
  | [a, b] => if pads = 2 then some [UInt8.ofNat (a * 4 + b / 16)] else none
  | [a, b, c] =>
      if 1 ≤ pads then some [UInt8.ofNat (a * 4 + b / 16), UInt8.ofNat (b % 16 * 16 + c / 4)]
      else none
  | a :: b :: c :: d :: rest =>
      (decodeGroups pads rest).map fun bytes =>
        UInt8.ofNat (a * 4 + b / 16) :: UInt8.ofNat (b % 16 * 16 + c / 4) ::
          UInt8.ofNat (c % 4 * 64 + d) :: bytes

/-- `base64.b64decode(s, validate=True)`: `none` is `binascii.Error`, a `ValueError`. -/
def decode (s : List Char) : Option (List UInt8) :=
  let data := s.takeWhile fun c => (decodeDigit c).isSome
  let pads := s.drop data.length
  if pads.all (· == '=') ∧ pads.length ≤ 2 then
    decodeGroups pads.length (data.filterMap decodeDigit)
  else none

theorem decodeDigit_encodeDigit {n : Nat} (small : n < 64) :
    decodeDigit (encodeDigit n) = some n := by
  have table : ∀ i : Fin 64, decodeDigit (encodeDigit i) = some i.val := by decide
  exact table ⟨n, small⟩

/-- What `encode` writes before the padding, by value. -/
def digits : List UInt8 → List Nat
  | [] => []
  | [a] => [a.toNat / 4, a.toNat % 4 * 16]
  | [a, b] => [a.toNat / 4, a.toNat % 4 * 16 + b.toNat / 16, b.toNat % 16 * 4]
  | a :: b :: c :: rest =>
      a.toNat / 4 :: (a.toNat % 4 * 16 + b.toNat / 16) ::
        (b.toNat % 16 * 4 + c.toNat / 64) :: c.toNat % 64 :: digits rest

/-- The number of `=` that `encode` writes. -/
def padding : List UInt8 → Nat
  | [] => 0
  | [_] => 2
  | [_, _] => 1
  | _ :: _ :: _ :: rest => padding rest

theorem digits_small (bytes : List UInt8) : ∀ n ∈ digits bytes, n < 64 := by
  fun_induction digits bytes with
  | case1 => simp
  | case2 a =>
    have := a.toNat_lt
    simp only [List.mem_cons, List.not_mem_nil, or_false]
    omega
  | case3 a b =>
    have := a.toNat_lt
    have := b.toNat_lt
    simp only [List.mem_cons, List.not_mem_nil, or_false]
    omega
  | case4 a b c rest ih =>
    have := a.toNat_lt
    have := b.toNat_lt
    have := c.toNat_lt
    intro n member
    simp only [List.mem_cons] at member
    rcases member with rfl | rfl | rfl | rfl | member
    · omega
    · omega
    · omega
    · omega
    · exact ih n member

theorem encode_eq (bytes : List UInt8) :
    encode bytes = (digits bytes).map encodeDigit ++ List.replicate (padding bytes) '=' := by
  fun_induction encode bytes with
  | case1 => rfl
  | case2 a => rfl
  | case3 a b => rfl
  | case4 a b c rest ih => simp [digits, padding, ih]

theorem padding_le (bytes : List UInt8) : padding bytes ≤ 2 := by
  fun_induction padding bytes <;> omega

/-- The digits give the bytes back. -/
theorem decodeGroups_digits (bytes : List UInt8) :
    decodeGroups (padding bytes) (digits bytes) = some bytes := by
  fun_induction digits bytes with
  | case1 => rfl
  | case2 a =>
    have small := a.toNat_lt
    have byte : a.toNat / 4 * 4 + a.toNat % 4 * 16 / 16 = a.toNat := by omega
    simp only [decodeGroups, padding, byte, if_true, UInt8.ofNat_toNat]
  | case3 a b =>
    have small := a.toNat_lt
    have small' := b.toNat_lt
    have byte : a.toNat / 4 * 4 + (a.toNat % 4 * 16 + b.toNat / 16) / 16 = a.toNat := by omega
    have byte' : (a.toNat % 4 * 16 + b.toNat / 16) % 16 * 16 + b.toNat % 16 * 4 / 4 =
      b.toNat := by omega
    simp only [decodeGroups, padding, byte, byte', Nat.le_refl, if_true, UInt8.ofNat_toNat]
  | case4 a b c rest ih =>
    have small := a.toNat_lt
    have small' := b.toNat_lt
    have small'' := c.toNat_lt
    have byte : a.toNat / 4 * 4 + (a.toNat % 4 * 16 + b.toNat / 16) / 16 = a.toNat := by omega
    have byte' : (a.toNat % 4 * 16 + b.toNat / 16) % 16 * 16 +
      (b.toNat % 16 * 4 + c.toNat / 64) / 4 = b.toNat := by omega
    have byte'' : (b.toNat % 16 * 4 + c.toNat / 64) % 4 * 64 + c.toNat % 64 = c.toNat := by omega
    simp only [decodeGroups, padding, ih, byte, byte', byte'', Option.map_some,
      UInt8.ofNat_toNat]

theorem decodeDigit_pad : decodeDigit '=' = none := by decide

theorem takeWhile_encoded (ns : List Nat) (small : ∀ n ∈ ns, n < 64) (pads : Nat) :
    (ns.map encodeDigit ++ List.replicate pads '=').takeWhile
      (fun c => (decodeDigit c).isSome) = ns.map encodeDigit := by
  induction ns with
  | nil =>
    cases pads with
    | zero => rfl
    | succ pads => simp [List.replicate_succ, decodeDigit_pad]
  | cons n ns ih =>
    have digit := decodeDigit_encodeDigit (small n List.mem_cons_self)
    have rest := ih fun m member => small m (List.mem_cons_of_mem _ member)
    simp only [List.map_cons, List.cons_append, List.takeWhile_cons, digit, Option.isSome_some,
      if_true, rest]

theorem filterMap_encoded (ns : List Nat) (small : ∀ n ∈ ns, n < 64) :
    (ns.map encodeDigit).filterMap decodeDigit = ns := by
  induction ns with
  | nil => rfl
  | cons n ns ih =>
    have digit := decodeDigit_encodeDigit (small n List.mem_cons_self)
    have rest := ih fun m member => small m (List.mem_cons_of_mem _ member)
    rw [List.map_cons, List.filterMap_cons_some digit, rest]

/-- Decoding gives back the encoded bytes. -/
theorem decode_encode (bytes : List UInt8) : decode (encode bytes) = some bytes := by
  have small := digits_small bytes
  have bound := padding_le bytes
  rw [encode_eq]
  simp only [decode, takeWhile_encoded _ small, List.drop_left, List.length_replicate,
    filterMap_encoded _ small, decodeGroups_digits]
  rw [if_pos ⟨by simp, bound⟩]

/-- Encoding 64 bytes, as a signature has, takes 88 characters. -/
theorem length_encode (bytes : List UInt8) :
    (encode bytes).length = (bytes.length + 2) / 3 * 4 := by
  fun_induction encode bytes with
  | case1 => rfl
  | case2 a => simp
  | case3 a b => simp
  | case4 a b c rest ih =>
    simp only [List.length_cons, ih]
    omega

end Base64

end Python
