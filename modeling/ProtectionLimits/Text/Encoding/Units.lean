import ProtectionLimits.Text.ByteReader

/-!
Contract: encodings in units of one, two and four bytes.

Owns the reader of UTF-8, the readers of UTF-16 and UTF-32 with either order of
bytes, and the mark at the beginning that tells the order where nothing else does.
In UTF-8 the first byte says how many go on with it and what the next one may be. A
character beyond 0xffff takes two units of two bytes, its halves.
-/

set_option autoImplicit false

namespace ProtectionLimits.Text

/-! ### One byte -/

/-- What the first byte of a character in UTF-8 says: the highest bits, how many bytes
go on with it, and the least and the greatest byte that may come next. -/
structure LeadByte where
  bits : Nat
  count : Nat
  least : Nat
  greatest : Nat
deriving DecidableEq, Repr

/-- What a byte says as the first one. The shortest form is the only one, and halves
and what lies beyond the last code point have none. -/
def leadByte? (byte : UInt8) : Option LeadByte :=
  let code := byte.toNat
  if code < 0x80 then some ⟨code, 0, 0x80, 0xbf⟩
  else if 0xc2 ≤ code && code < 0xe0 then some ⟨code - 0xc0, 1, 0x80, 0xbf⟩
  else if code = 0xe0 then some ⟨0, 2, 0xa0, 0xbf⟩
  else if code = 0xed then some ⟨0xd, 2, 0x80, 0x9f⟩
  else if 0xe0 ≤ code && code < 0xf0 then some ⟨code - 0xe0, 2, 0x80, 0xbf⟩
  else if code = 0xf0 then some ⟨0, 3, 0x90, 0xbf⟩
  else if code = 0xf4 then some ⟨4, 3, 0x80, 0x8f⟩
  else if 0xf0 ≤ code && code < 0xf4 then some ⟨code - 0xf0, 3, 0x80, 0xbf⟩
  else none

/-- What a lead is with the bytes behind it, so many of which were read. -/
def goOn (lead : LeadByte) (more : Nat) : List UInt8 → Finding Unit
  | [] => if lead.count = 0 then .character (Char.ofNat lead.bits) more () else .cut .restMissing
  | byte :: rest =>
      if lead.count = 0 then .character (Char.ofNat lead.bits) more ()
      else if lead.least ≤ byte.toNat && byte.toNat ≤ lead.greatest then
        goOn ⟨0x40 * lead.bits + (byte.toNat - 0x80), lead.count - 1, 0x80, 0xbf⟩ (more + 1) rest
      else .flawed more .continuationByte

def byteUnitReader : ByteReader Unit :=
  fun _ byte rest =>
    match leadByte? byte with
    | some lead => goOn lead 0 rest
    | none => .flawed 0 .startByte

/-! ### Two and four bytes -/

inductive ByteOrder where
  | largeFirst
  | smallFirst
deriving DecidableEq, Repr

namespace ByteOrder

def label : ByteOrder → String
  | largeFirst => "-be"
  | smallFirst => "-le"

def number : ByteOrder → List UInt8 → Nat
  | largeFirst, bytes => bytes.foldl (fun value byte => 0x100 * value + byte.toNat) 0
  | smallFirst, bytes => bytes.foldr (fun byte value => 0x100 * value + byte.toNat) 0

end ByteOrder

def isFirstHalf (unit : Nat) : Bool := 0xd800 ≤ unit && unit < 0xdc00

def isSecondHalf (unit : Nat) : Bool := 0xdc00 ≤ unit && unit < 0xe000

def joinedHalves (first second : Nat) : Char :=
  Char.ofNat (0x10000 + (first - 0xd800) * 0x400 + (second - 0xdc00))

def pairUnitReader (order : ByteOrder) : ByteReader Unit :=
  fun state byte rest =>
    match rest with
    | [] => .cut .truncated
    | second :: others =>
        let unit := order.number [byte, second]
        if isSecondHalf unit then .flawed 1 .halfMisplaced
        else if isFirstHalf unit then
          match others with
          | third :: fourth :: _ =>
              let next := order.number [third, fourth]
              if isSecondHalf next then .character (joinedHalves unit next) 3 state
              else .flawed 1 .halfAlone
          | _ => .cut .restMissing
        else .character (Char.ofNat unit) 1 state

def pointUnitReader (order : ByteOrder) : ByteReader Unit :=
  fun state byte rest =>
    match rest with
    | second :: third :: fourth :: _ =>
        let point := order.number [byte, second, third, fourth]
        if isFirstHalf point || isSecondHalf point then .flawed 3 .halfAsPoint
        else if point.isValidChar then .character (Char.ofNat point) 3 state
        else .flawed 3 .pointTooLarge
    | _ => .cut .truncated

/-- The mark for the order of bytes: this number, in as many bytes as a unit has. -/
def orderMark : Nat := 0xfeff

/-- The order that a mark at the beginning tells. Without a mark the smallest byte
comes first. -/
def toldOrder (width : Nat) (bytes : List UInt8) : ByteOrder :=
  if bytes.length < width then .smallFirst
  else if ByteOrder.largeFirst.number (bytes.take width) = orderMark then .largeFirst
  else .smallFirst

def hasMark (width : Nat) (order : ByteOrder) (bytes : List UInt8) : Bool :=
  width ≤ bytes.length && order.number (bytes.take width) == orderMark

/-- Bytes in units of a width, in an order that is given or else told by the mark,
which is then left out. -/
def readUnits (width : Nat) (reader : ByteOrder → ByteReader Unit) (name : String)
    (given : Option ByteOrder) (bytes : List UInt8) : Except Undecodable (List Char) :=
  match given with
  | some order => (reader order).read (name ++ order.label) () bytes
  | none =>
      let order := toldOrder width bytes
      if hasMark width order bytes then
        (reader order).readFrom (name ++ order.label) width () (bytes.drop width)
      else (reader order).read (name ++ order.label) () bytes

/-! ### Small facts -/

end ProtectionLimits.Text
