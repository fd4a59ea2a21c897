namespace TreeShell.Text

def toBytes (text : List Char) : List Nat :=
  text.flatMap fun c => (String.utf8EncodeChar c).map UInt8.toNat

/-- The start of a character: its value so far, how many bytes are missing, and the range of the
    next one. -/
structure Partial where
  value : Nat
  missing : Nat
  low : Nat := 0x80
  high : Nat := 0xBF

def startOf (byte : Nat) : Char ⊕ Partial :=
  if byte < 0x80 then .inl (Char.ofNat byte)
  else if byte < 0xC2 then .inl '\uFFFD'
  else if byte < 0xE0 then .inr ⟨byte - 0xC0, 1, 0x80, 0xBF⟩
  else if byte = 0xE0 then .inr ⟨0, 2, 0xA0, 0xBF⟩
  else if byte = 0xED then .inr ⟨0xD, 2, 0x80, 0x9F⟩
  else if byte < 0xF0 then .inr ⟨byte - 0xE0, 2, 0x80, 0xBF⟩
  else if byte = 0xF0 then .inr ⟨0, 3, 0x90, 0xBF⟩
  else if byte < 0xF4 then .inr ⟨byte - 0xF0, 3, 0x80, 0xBF⟩
  else if byte = 0xF4 then .inr ⟨4, 3, 0x80, 0x8F⟩
  else .inl '\uFFFD'

def ofBytesAfter : Option Partial → List Nat → List Char
  | none, [] => []
  | some _, [] => ['\uFFFD']
  | none, byte :: rest =>
    match startOf byte with
    | .inl c => c :: ofBytesAfter none rest
    | .inr start => ofBytesAfter (some start) rest
  | some start, byte :: rest =>
    if start.low ≤ byte ∧ byte ≤ start.high then
      let value := 0x40 * start.value + (byte - 0x80)
      if start.missing ≤ 1 then Char.ofNat value :: ofBytesAfter none rest
      else ofBytesAfter (some { value, missing := start.missing - 1 }) rest
    else
      match startOf byte with
      | .inl c => '\uFFFD' :: c :: ofBytesAfter none rest
      | .inr start => '\uFFFD' :: ofBytesAfter (some start) rest

def ofBytes (bytes : List Nat) : List Char := ofBytesAfter none bytes

end TreeShell.Text
