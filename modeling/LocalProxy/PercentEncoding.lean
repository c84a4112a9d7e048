import LocalProxy.Strings

/-! Percent encoding of text: the bytes of its UTF-8 form that are neither letters nor
digits stand as `%` and two hexadecimal digits. -/

namespace LocalProxy.PercentEncoding
open Strings

def hexDigit (n : Nat) : Char := (Nat.digitChar n).toUpper

def encodeByte (byte : UInt8) : Text :=
  if (Char.ofNat byte.toNat).isAlphanum then [Char.ofNat byte.toNat]
  else ['%', hexDigit (byte.toNat / 16), hexDigit (byte.toNat % 16)]

/-- What is not a complete escape stands for itself. -/
def decodeBytes : Text → List UInt8
  | [] => []
  | [c] => String.utf8EncodeChar c
  | [c, d] => String.utf8EncodeChar c ++ String.utf8EncodeChar d
  | c :: high :: low :: rest =>
    match if c = '%' then (toDigit 16 high).bind fun h => (toDigit 16 low).map fun l => 16 * h + l
      else none with
    | some value => UInt8.ofNat value :: decodeBytes rest
    | none => String.utf8EncodeChar c ++ decodeBytes (high :: low :: rest)

def bytes (text : Text) : List UInt8 := text.flatMap String.utf8EncodeChar

def encode (text : Text) : Text := (bytes text).flatMap encodeByte

/-- The text, if its bytes are UTF-8. -/
def decode (text : Text) : Option Text :=
  (decodeBytes text).toByteArray.utf8Decode?.map Array.toList

theorem decodeBytes_plain {c : Char} (plain : c ≠ '%') (rest : Text) :
    decodeBytes (c :: rest) = String.utf8EncodeChar c ++ decodeBytes rest := by
  cases rest with
  | nil => simp [decodeBytes]
  | cons high rest =>
    cases rest with
    | nil => simp [decodeBytes]
    | cons low rest => simp [decodeBytes, plain]

theorem toDigit_hexDigit {n : Nat} (small : n < 16) : toDigit 16 (hexDigit n) = some n := by
  have table : ∀ digit : Fin 16, toDigit 16 (hexDigit digit) = some digit.val := by decide
  exact table ⟨n, small⟩

/-- The ASCII letters and digits are their own bytes. -/
theorem alphanumeric_byte (byte : UInt8) (plain : (Char.ofNat byte.toNat).isAlphanum = true) :
    String.utf8EncodeChar (Char.ofNat byte.toNat) = [byte] ∧ Char.ofNat byte.toNat ≠ '%' := by
  have table : ∀ b : Fin 256, (Char.ofNat b).isAlphanum = true →
      String.utf8EncodeChar (Char.ofNat b) = [UInt8.ofNat b] ∧ Char.ofNat b ≠ '%' := by
    decide +kernel
  have known := table ⟨byte.toNat, byte.toNat_lt⟩ plain
  rwa [UInt8.ofNat_toNat] at known

theorem decodeBytes_encodeByte (byte : UInt8) (rest : Text) :
    decodeBytes (encodeByte byte ++ rest) = byte :: decodeBytes rest := by
  unfold encodeByte
  split
  next plain =>
    obtain ⟨own, other⟩ := alphanumeric_byte byte plain
    change decodeBytes (Char.ofNat byte.toNat :: rest) = _
    rw [decodeBytes_plain other, own]
    rfl
  next =>
    have below := byte.toNat_lt
    have high := toDigit_hexDigit (n := byte.toNat / 16) (by omega)
    have low := toDigit_hexDigit (n := byte.toNat % 16) (by omega)
    have value : 16 * (byte.toNat / 16) + byte.toNat % 16 = byte.toNat := Nat.div_add_mod _ 16
    simp [decodeBytes, high, low, value]

theorem decodeBytes_encode (written : List UInt8) :
    decodeBytes (written.flatMap encodeByte) = written := by
  induction written with
  | nil => rfl
  | cons byte written ih => rw [List.flatMap_cons, decodeBytes_encodeByte, ih]

theorem decode_bytes {text plain : Text} (same : decodeBytes text = bytes plain) :
    decode text = some plain := by
  have whole : (bytes plain).toByteArray = plain.utf8Encode := rfl
  rw [decode, same, whole, List.utf8Decode?_utf8Encode]
  rfl

theorem decode_encode (text : Text) : decode (encode text) = some text :=
  decode_bytes (decodeBytes_encode (bytes text))

theorem encode_chars {text : Text} {c : Char} (member : c ∈ encode text) :
    c.isAlphanum = true ∨ c = '%' := by
  obtain ⟨byte, _, written⟩ := List.mem_flatMap.mp member
  have digits : ∀ digit : Fin 16, (hexDigit digit).isAlphanum = true := by decide
  have below := byte.toNat_lt
  unfold encodeByte at written
  split at written
  next plain =>
    rw [List.mem_singleton.mp written]
    exact .inl plain
  next =>
    simp only [List.mem_cons, List.not_mem_nil, or_false] at written
    rcases written with percent | high | low
    · exact .inr percent
    · rw [high]
      exact .inl (digits ⟨byte.toNat / 16, by omega⟩)
    · rw [low]
      exact .inl (digits ⟨byte.toNat % 16, by omega⟩)

end LocalProxy.PercentEncoding
