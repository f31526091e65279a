import PseudoLint.Text.Quoted

/-! # Reading bytes as text

UTF-8 is read strictly: overlong forms, surrogates and values above U+10FFFF are refused, and a
refusal names the stretch of bytes that could have begun a character and the reason it did not.
Latin-1 gives every byte the character of the same number and never fails. Text read from a file
has each carriage return, alone or before a line feed, turned into one line feed.
-/

namespace PseudoLint

abbrev Bytes := List UInt8

namespace Utf8

/-- Why a stretch of bytes is no character. -/
inductive Reason where
  | invalidStart
  | invalidContinuation
  | unexpectedEnd
deriving DecidableEq, Repr

/-- A stretch of bytes that is no character: where it starts, its first byte, how many bytes it
has and why it was refused. -/
structure Fault where
  position : Nat
  byte : UInt8
  length : Nat
  reason : Reason
deriving DecidableEq, Repr

def Reason.message : Reason → Text
  | .invalidStart => "invalid start byte"
  | .invalidContinuation => "invalid continuation byte"
  | .unexpectedEnd => "unexpected end of data"

def Fault.message (fault : Fault) : Text :=
  let place : Text :=
    if fault.length ≤ 1 then
      "byte 0x" ++ hexDigits 2 fault.byte.toNat ++ " in position " ++
        Nat.toDigits 10 fault.position
    else
      "bytes in position " ++ Nat.toDigits 10 fault.position ++ "-" ++
        Nat.toDigits 10 (fault.position + fault.length - 1)
  "'utf-8' codec can't decode " ++ place ++ ": " ++ fault.reason.message

def isContinuation (byte : UInt8) : Bool :=
  0x80 ≤ byte && byte ≤ 0xBF

/-- Whether `second` may follow `first` in a character of three bytes or more: behind the first byte
`overlong` it is at least `least`, or a shorter form would do, and behind the first byte `limited`
it is below `bound`. -/
def isSecondWithin (overlong least limited bound first second : UInt8) : Bool :=
  isContinuation second && !(first == overlong && second < least) &&
    !(first == limited && bound ≤ second)

def isSecondOfThree (first second : UInt8) : Bool :=
  isSecondWithin 0xE0 0xA0 0xED 0xA0 first second

def isSecondOfFour (first second : UInt8) : Bool :=
  isSecondWithin 0xF0 0x90 0xF4 0x90 first second

/-- The character whose payload bits are those of `lead` followed by six bits of each byte. -/
def assemble (lead : Nat) (continuation : Bytes) : Char :=
  Char.ofNat (continuation.foldl (fun code byte => code * 64 + byte.toNat % 64) lead)

/-- Reads bytes that start at `position`. -/
def decodeFrom (position : Nat) : Bytes → Except Fault Text
  | [] => .ok []
  | a :: rest =>
    let refuse (length : Nat) (reason : Reason) : Except Fault Text :=
      .error ⟨position, a, length, reason⟩
    if a < 0x80 then (decodeFrom (position + 1) rest).map (Char.ofNat a.toNat :: ·)
    else if a < 0xC2 then refuse 1 .invalidStart
    else if a < 0xE0 then
      match rest with
      | [] => refuse 1 .unexpectedEnd
      | b :: rest =>
        if isContinuation b then
          (decodeFrom (position + 2) rest).map (assemble (a.toNat - 0xC0) [b] :: ·)
        else refuse 1 .invalidContinuation
    else if a < 0xF0 then
      match rest with
      | [] => refuse 1 .unexpectedEnd
      | b :: rest =>
        if !isSecondOfThree a b then refuse 1 .invalidContinuation
        else
          match rest with
          | [] => refuse 2 .unexpectedEnd
          | c :: rest =>
            if isContinuation c then
              (decodeFrom (position + 3) rest).map (assemble (a.toNat - 0xE0) [b, c] :: ·)
            else refuse 2 .invalidContinuation
    else if a < 0xF5 then
      match rest with
      | [] => refuse 1 .unexpectedEnd
      | b :: rest =>
        if !isSecondOfFour a b then refuse 1 .invalidContinuation
        else
          match rest with
          | [] => refuse 2 .unexpectedEnd
          | c :: rest =>
            if !isContinuation c then refuse 2 .invalidContinuation
            else
              match rest with
              | [] => refuse 3 .unexpectedEnd
              | d :: rest =>
                if isContinuation d then
                  (decodeFrom (position + 4) rest).map (assemble (a.toNat - 0xF0) [b, c, d] :: ·)
                else refuse 3 .invalidContinuation
    else refuse 1 .invalidStart

def decode (bytes : Bytes) : Except Fault Text :=
  decodeFrom 0 bytes

end Utf8

/-- Reads bytes as Latin-1: every byte is the character of that number. -/
def latin1 (bytes : Bytes) : Text :=
  bytes.map fun byte => Char.ofNat byte.toNat

/-- Reads an uploaded file: as UTF-8 if its bytes are well formed, and as Latin-1 otherwise. -/
def decodeUpload (bytes : Bytes) : Text :=
  match Utf8.decode bytes with
  | .ok text => text
  | .error _ => latin1 bytes

/-- Turns a carriage return and line feed, or a carriage return alone, into one line feed. -/
def unifyNewlines : Text → Text
  | [] => []
  | '\r' :: '\n' :: rest => '\n' :: unifyNewlines rest
  | c :: rest => (if c == '\r' then '\n' else c) :: unifyNewlines rest

/-- Reads the bytes of a text file. -/
def decodeFile (bytes : Bytes) : Except Utf8.Fault Text :=
  (Utf8.decode bytes).map unifyNewlines

end PseudoLint
