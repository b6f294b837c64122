/-!
# UTF-8

`decode` reads bytes as text and stops at the first place that is not well formed. A fault says
which bytes are at fault and why: a byte that cannot start a character, a byte that cannot
continue one, or the end of the input inside a character.
-/

namespace Scaffold

/-- The contents of a file, or a piece of them. -/
abbrev Bytes := List UInt8

namespace Text.Utf8

inductive Reason where
  | start
  | continuation
  | truncated
deriving Repr, DecidableEq, Inhabited

namespace Reason

def message : Reason → String
  | .start => "invalid start byte"
  | .continuation => "invalid continuation byte"
  | .truncated => "unexpected end of data"

end Reason

/-- The bytes from position `first`, `count` of them, the first one being `byte`. -/
structure Fault where
  byte : UInt8
  first : Nat
  count : Nat
  reason : Reason
deriving Repr, DecidableEq, Inhabited

def hexDigit (n : Nat) : Char :=
  if n < 10 then Char.ofNat (48 + n) else Char.ofNat (87 + n)

/-- Two hexadecimal digits. -/
def hexByte (b : UInt8) : String :=
  String.ofList [hexDigit (b.toNat / 16), hexDigit (b.toNat % 16)]

namespace Fault

def message (f : Fault) : String :=
  if f.count == 1 then
    s!"'utf-8' codec can't decode byte 0x{hexByte f.byte} in position {f.first}: {f.reason.message}"
  else
    let last := f.first + f.count - 1
    s!"'utf-8' codec can't decode bytes in position {f.first}-{last}: {f.reason.message}"

end Fault

def isContinuation (b : UInt8) : Bool :=
  0x80 ≤ b && b < 0xc0

/-- What stands at the front of the bytes: a character of `width` bytes, or a fault. -/
inductive Front where
  | char (c : Char) (width : Nat)
  | fault (reason : Reason) (count : Nat)
deriving Repr, DecidableEq

/-- The second byte of a character rules out long forms, surrogates and numbers past the last. -/
def allowsSecond (lead second : UInt8) : Bool :=
  isContinuation second &&
    (if lead == 0xe0 then 0xa0 ≤ second
    else if lead == 0xed then second < 0xa0
    else if lead == 0xf0 then 0x90 ≤ second
    else if lead == 0xf4 then second < 0x90
    else true)

/-- The number of bytes a first byte announces; `0` when it cannot start a character. -/
def announced (lead : UInt8) : Nat :=
  if lead < 0x80 then 1
  else if lead < 0xc2 then 0
  else if lead < 0xe0 then 2
  else if lead < 0xf0 then 3
  else if lead < 0xf5 then 4
  else 0

/-- The number written by the first byte and the continuation bytes after it. -/
def assemble (lead : UInt8) (tail : Bytes) : Char :=
  let top := if tail.length == 1 then lead.toNat % 32 else if tail.length == 2 then lead.toNat % 16
    else lead.toNat % 8
  Char.ofNat (tail.foldl (fun n b => n * 64 + b.toNat % 64) top)

def front (lead : UInt8) (rest : Bytes) : Front :=
  match announced lead with
  | 0 => .fault .start 1
  | 1 => .char (Char.ofNat lead.toNat) 1
  | width =>
    let tail := rest.take (width - 1)
    match tail with
    | [] => .fault .truncated 1
    | second :: others =>
      if !allowsSecond lead second then .fault .continuation 1
      else
        let good := others.takeWhile isContinuation
        if good.length < others.length then .fault .continuation (good.length + 2)
        else if tail.length < width - 1 then .fault .truncated (tail.length + 1)
        else .char (assemble lead tail) width

/-- The characters of `bytes`, the first of which stands at `position`. The first argument
counts the bytes that belong to a character already read. -/
def decodeFrom (position : Nat) : Nat → Bytes → Except Fault (List Char)
  | _, [] => .ok []
  | pending + 1, _ :: rest => decodeFrom (position + 1) pending rest
  | 0, lead :: rest =>
    match front lead rest with
    | .char c width =>
      match decodeFrom (position + 1) (width - 1) rest with
      | .ok cs => .ok (c :: cs)
      | .error f => .error f
    | .fault reason count => .error ⟨lead, position, count, reason⟩

def decode (bytes : Bytes) : Except Fault String :=
  (decodeFrom 0 0 bytes).map String.ofList

/-- Reads a stream: the bytes of an unfinished last character are only looked at once the stream
has ended, and are then counted from the first of them. -/
def decodeStream (bytes : Bytes) : Except Fault String :=
  (decode bytes).mapError fun f => if f.reason == .truncated then { f with first := 0 } else f

def encode (s : String) : Bytes :=
  s.toUTF8.toList

end Text.Utf8

end Scaffold
