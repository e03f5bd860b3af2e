/-!
# UTF-8

Decoding bytes one after the other. A sequence that breaks off is one invalid piece, and the
byte that broke it is read anew.
-/
namespace RoutineBindings.Text

abbrev Bytes := List UInt8

def encode (s : String) : Bytes := s.toUTF8.toList

/-- A sequence that is being read: how many bytes are missing, the bits so far, and the
range of the next byte. -/
structure Utf8Sequence where
  missing : Nat
  bits : Nat
  least : Nat
  greatest : Nat
  deriving Repr, DecidableEq

/-- What the first byte of a sequence says: a whole character, a longer sequence, or nothing
valid. -/
inductive Utf8Start where
  | whole (c : Char)
  | longer (s : Utf8Sequence)
  | invalid
  deriving Repr, DecidableEq

def Utf8Start.ofByte (b : UInt8) : Utf8Start :=
  let n := b.toNat
  if n < 0x80 then .whole (Char.ofNat n)
  else if n < 0xc2 then .invalid
  else if n < 0xe0 then .longer ⟨1, n - 0xc0, 0x80, 0xbf⟩
  else if n = 0xe0 then .longer ⟨2, 0, 0xa0, 0xbf⟩
  else if n = 0xed then .longer ⟨2, 0xd, 0x80, 0x9f⟩
  else if n < 0xf0 then .longer ⟨2, n - 0xe0, 0x80, 0xbf⟩
  else if n = 0xf0 then .longer ⟨3, 0, 0x90, 0xbf⟩
  else if n < 0xf4 then .longer ⟨3, n - 0xf0, 0x80, 0xbf⟩
  else if n = 0xf4 then .longer ⟨3, 4, 0x80, 0x8f⟩
  else .invalid

/-- The pieces of a byte sequence: characters, and `none` for each invalid piece. -/
def pieces : Option Utf8Sequence → Bytes → List (Option Char)
  | none, [] => []
  | some _, [] => [none]
  | none, b :: bs =>
    match Utf8Start.ofByte b with
    | .whole c => some c :: pieces none bs
    | .longer s => pieces (some s) bs
    | .invalid => none :: pieces none bs
  | some s, b :: bs =>
    if s.least ≤ b.toNat && b.toNat ≤ s.greatest then
      let bits := s.bits * 64 + (b.toNat - 0x80)
      if s.missing = 1 then some (Char.ofNat bits) :: pieces none bs
      else pieces (some ⟨s.missing - 1, bits, 0x80, 0xbf⟩) bs
    else
      none :: match Utf8Start.ofByte b with
        | .whole c => some c :: pieces none bs
        | .longer t => pieces (some t) bs
        | .invalid => none :: pieces none bs

/-- The text of bytes that are all valid. -/
def decode? (bs : Bytes) : Option String :=
  ((pieces none bs).mapM id).map String.ofList

/-- The text of bytes, with a replacement character for each invalid piece. -/
def decodeLossy (bs : Bytes) : String :=
  String.ofList ((pieces none bs).map (·.getD '\ufffd'))

end RoutineBindings.Text
