import RunnerFleet.Text.Quoted

/-!
# UTF-8

Files are read as UTF-8 without any tolerance.  The first octet sequence that
encodes no scalar value is reported with its place and one of three reasons.
Overlong forms, surrogates and code points beyond the last plane are refused at
the octet where they can first be recognised.

Names that are handed to the system are written and read as UTF-8 with one
tolerance: some surrogates stand for octets that are no part of a character.  Any
other surrogate is reported with its place.  Two names with the same octets are
the same to the system, so a name has a settled form, which is what reading its
octets yields.
-/

namespace RunnerFleet.Text.Utf8

/-! ## Reading -/

/-- Why a sequence of octets is refused. -/
inductive Reason where
  | invalidStart
  | invalidContinuation
  | unexpectedEnd
  deriving DecidableEq, Repr

/-- The words for a reason. -/
def Reason.message : Reason → String
  | .invalidStart => "invalid start byte"
  | .invalidContinuation => "invalid continuation byte"
  | .unexpectedEnd => "unexpected end of data"

/-- A refused sequence: its first octet, where it starts, how many octets it
has, and the reason. -/
structure Fault where
  octet : UInt8
  position : Nat
  size : Nat
  reason : Reason
  deriving DecidableEq, Repr

/-- The report of a refused sequence. -/
def Fault.message (fault : Fault) : String :=
  let place :=
    if fault.size = 1 then
      "byte 0x" ++ hexadecimal 2 fault.octet.toNat ++ " in position " ++ toString fault.position
    else
      "bytes in position " ++ toString fault.position ++ "-"
        ++ toString (fault.position + fault.size - 1)
  "'utf-8' codec can't decode " ++ place ++ ": " ++ fault.reason.message

/-- Whether an octet continues a sequence. -/
def isContinuation (octet : UInt8) : Bool :=
  0x80 ≤ octet && octet < 0xC0

/-- Whether a second octet may follow the given first one: besides being a
continuation it must not make the sequence overlong, a surrogate, or larger
than the last code point. -/
def mayFollow (first second : UInt8) : Bool :=
  isContinuation second &&
    (first != 0xE0 || 0xA0 ≤ second) &&
    (first != 0xED || second < 0xA0) &&
    (first != 0xF0 || 0x90 ≤ second) &&
    (first != 0xF4 || second < 0x90)

/-- The six payload bits of a continuation octet. -/
def payload (octet : UInt8) : Nat :=
  octet.toNat % 64

/-- Read octets from a position on. -/
def decodeFrom : Nat → List UInt8 → Except Fault (List Char)
  | _, [] => .ok []
  | position, first :: rest =>
    let refuse (size : Nat) (reason : Reason) : Except Fault (List Char) :=
      .error ⟨first, position, size, reason⟩
    if first < 0x80 then
      (Char.ofNat first.toNat :: ·) <$> decodeFrom (position + 1) rest
    else if first < 0xC2 || 0xF5 ≤ first then
      refuse 1 .invalidStart
    else if first < 0xE0 then
      match rest with
      | [] => refuse 1 .unexpectedEnd
      | second :: rest =>
        if isContinuation second then
          (Char.ofNat (first.toNat % 32 * 64 + payload second) :: ·)
            <$> decodeFrom (position + 2) rest
        else
          refuse 1 .invalidContinuation
    else if first < 0xF0 then
      match rest with
      | [] => refuse 1 .unexpectedEnd
      | [second] =>
        if mayFollow first second then refuse 2 .unexpectedEnd
        else refuse 1 .invalidContinuation
      | second :: third :: rest =>
        if !mayFollow first second then
          refuse 1 .invalidContinuation
        else if !isContinuation third then
          refuse 2 .invalidContinuation
        else
          (Char.ofNat (first.toNat % 16 * 4096 + payload second * 64 + payload third) :: ·)
            <$> decodeFrom (position + 3) rest
    else
      match rest with
      | [] => refuse 1 .unexpectedEnd
      | [second] =>
        if mayFollow first second then refuse 2 .unexpectedEnd
        else refuse 1 .invalidContinuation
      | [second, third] =>
        if !mayFollow first second then refuse 1 .invalidContinuation
        else if !isContinuation third then refuse 2 .invalidContinuation
        else refuse 3 .unexpectedEnd
      | second :: third :: fourth :: rest =>
        if !mayFollow first second then
          refuse 1 .invalidContinuation
        else if !isContinuation third then
          refuse 2 .invalidContinuation
        else if !isContinuation fourth then
          refuse 3 .invalidContinuation
        else
          (Char.ofNat
              (first.toNat % 8 * 262144 + payload second * 4096 + payload third * 64
                + payload fourth) :: ·)
            <$> decodeFrom (position + 4) rest

/-- Read a whole sequence of octets. -/
def decode (octets : List UInt8) : Except Fault (List Char) :=
  decodeFrom 0 octets

/-- The octets of a string. -/
def encode (content : String) : List UInt8 :=
  content.toUTF8.toList

/-! ## Names without octets -/

/-- Whether a code point is a surrogate. -/
def isSurrogate : CodePoint → Bool
  | .scalar _ => false
  | .surrogate _ => true

/-- Whether a code point stands for an octet from 128 on. -/
def isLooseOctet (point : CodePoint) : Bool :=
  0xDC80 ≤ point.code && point.code ≤ 0xDCFF

/-- A run of surrogates that has no octets: its first one, where it starts, and
how many there are. -/
structure EncodingFault where
  first : CodePoint
  position : Nat
  size : Nat
  deriving DecidableEq, Repr

/-- The report of a run without octets. -/
def EncodingFault.message (fault : EncodingFault) : String :=
  let place :=
    if fault.size = 1 then
      "character '" ++ quotedPoint '\'' fault.first ++ "' in position "
        ++ toString fault.position
    else
      "characters in position " ++ toString fault.position ++ "-"
        ++ toString (fault.position + fault.size - 1)
  "'utf-8' codec can't encode " ++ place ++ ": surrogates not allowed"

/-- The first run without octets from a position on, if there is one.  It goes up
to the next code point that is no surrogate. -/
def encodingFaultFrom? : Nat → Text → Option EncodingFault
  | _, [] => none
  | position, point :: rest =>
    if isSurrogate point && !isLooseOctet point then
      some ⟨point, position, (rest.takeWhile isSurrogate).length + 1⟩
    else
      encodingFaultFrom? (position + 1) rest

/-- The first run without octets of a text, if there is one. -/
def encodingFault? (text : Text) : Option EncodingFault :=
  encodingFaultFrom? 0 text

/-! ## Names as octets -/

/-- The octets of a code point; a surrogate has the one that it stands for. -/
def pointOctets : CodePoint → List UInt8
  | .scalar char => String.utf8EncodeChar char
  | .surrogate index => [UInt8.ofNat index.val]

/-- The octets of a name, if each of its surrogates stands for an octet. -/
def nameOctets (name : Text) : Except EncodingFault (List UInt8) :=
  match encodingFault? name with
  | some fault => .error fault
  | none => .ok (name.flatMap pointOctets)

/-- The surrogate that stands for an octet. -/
def looseOctet (octet : UInt8) : CodePoint :=
  .surrogate ⟨0x400 + octet.toNat, by have := octet.toNat_lt; omega⟩

/-- The character that octets start with, and how many octets it has. -/
def leadingChar? (octets : List UInt8) : Option (Char × Nat) :=
  [1, 2, 3, 4].findSome? fun size =>
    match decode (octets.take size) with
    | .ok [char] => some (char, size)
    | _ => none

/-- The name that octets read as, without a number of octets at their start, which
belong to a character that was read before. -/
def nameFrom : Nat → List UInt8 → Text
  | _, [] => []
  | skipped + 1, _ :: rest => nameFrom skipped rest
  | 0, octet :: rest =>
    match leadingChar? (octet :: rest) with
    | some (char, size) => .scalar char :: nameFrom (size - 1) rest
    | none => looseOctet octet :: nameFrom 0 rest

/-- The name that octets read as. -/
def nameOf (octets : List UInt8) : Text :=
  nameFrom 0 octets

/-- The settled form of a name. -/
def settled (name : Text) : Except EncodingFault Text :=
  (nameOctets name).map nameOf

example : nameOctets [.scalar 'é', .surrogate 0x4FF] = .ok [0xC3, 0xA9, 0xFF] := by cbv
example : nameOf [0xC3, 0xA9, 0xC3] = [.scalar 'é', .surrogate 0x4C3] := by cbv

example : decode [0x61, 0xC3, 0xA9] = .ok ['a', 'é'] := by cbv
example : decode [0x61, 0xFF] = .error ⟨0xFF, 1, 1, .invalidStart⟩ := by cbv
example : decode [0xE2, 0x82] = .error ⟨0xE2, 0, 2, .unexpectedEnd⟩ := by cbv

end RunnerFleet.Text.Utf8
