import ProtectionLimits.Text.Undecodable

/-!
Contract: bytes read from the front.

Owns the reading of bytes that is the same in all encodings. An encoding says what
the first byte and those behind it are: characters, or a flaw. Whatever it finds
takes the first byte at least, so that reading comes to an end. The first flaw is
reported with its bytes and their place, and the characters before it are lost.
-/

set_option autoImplicit false

namespace ProtectionLimits.Text

/-- What the first of some bytes is, with so many of the bytes behind it. -/
inductive Finding (State : Type) where
  /-- Characters, and the state behind them. -/
  | characters (found : List Char) (more : Nat) (state : State)
  /-- A flaw of these bytes. -/
  | flawed (more : Nat) (flaw : DecodingFlaw)
  /-- A flaw of all bytes up to the end. -/
  | cut (flaw : DecodingFlaw)

namespace Finding

def character {State : Type} (found : Char) (more : Nat) (state : State) : Finding State :=
  characters [found] more state

def ofSet? {State : Type} (found : Option Char) (more : Nat) (state : State) (length : Nat) :
    Finding State :=
  match found with
  | some character => Finding.character character more state
  | none => flawed length .illegalSequence

end Finding

abbrev ByteReader (State : Type) := State → UInt8 → List UInt8 → Finding State

namespace ByteReader

/-- Bytes read from a place on. The name is the one that flaws are reported
under. -/
def readFrom {State : Type} (reader : ByteReader State) (name : String) (place : Nat)
    (state : State) : List UInt8 → Except Undecodable (List Char)
  | [] => .ok []
  | byte :: rest =>
      match reader state byte rest with
      | .characters found more after =>
          (readFrom reader name (place + 1 + more) after (rest.drop more)).map (found ++ ·)
      | .flawed more flaw => .error ⟨name, byte :: rest.take more, place, flaw⟩
      | .cut flaw => .error ⟨name, byte :: rest, place, flaw⟩
termination_by bytes => bytes.length
decreasing_by
  simp only [List.length_drop, List.length_cons]
  omega

def read {State : Type} (reader : ByteReader State) (name : String) (state : State)
    (bytes : List UInt8) : Except Undecodable (List Char) :=
  reader.readFrom name 0 state bytes

/-- A way to read that looks at every byte alone. -/
def ofBytes (character? : UInt8 → Option Char) (flaw : DecodingFlaw) : ByteReader Unit :=
  fun state byte _ =>
    match character? byte with
    | some character => .character character 0 state
    | none => .flawed 0 flaw

/-! ### Small facts -/

end ByteReader

def asciiChar? (byte : UInt8) : Option Char :=
  if byte.toNat < 0x80 then some (Char.ofNat byte.toNat) else none

end ProtectionLimits.Text
