import TeeAnchor.Errors
import TeeAnchor.ByteStrings
import TeeAnchor.ExactReaders

/-!
# The minimal CBOR decoder and encoder

`common/cbor.hpp` reads just the part of CBOR that attestation tokens use:
definite lengths, integers, strings, arrays, maps, tags and simple values.
The decoder's cursor is the list of bytes still to be read.  Its recursion is
given fuel, one unit for each byte of the input, and the storage that
containers reserve ahead of their elements is a parameter.
-/

namespace TeeAnchor.Cbor

open ExactReaders

/-- A decoded item.  A tag always holds the one item it was read with. -/
inductive Value
  | uint (argument : UInt64)
  | nint (argument : UInt64)
  | bytes (content : Bytes)
  | text (content : Bytes)
  | array (items : List Value)
  | map (pairs : List (Value × Value))
  | tag (number : UInt64) (content : Value)
  | simple (number : UInt64)
  deriving Repr

namespace Value

/-- The 64-bit signed reading of an integer item. -/
def asInt : Value → Result Int64
  | .uint argument => return argument.toInt64
  | .nint argument => return -1 - argument.toInt64
  | _ => teeAnchorError "cbor: value is not an integer"

def pairs : Value → List (Value × Value)
  | .map pairs => pairs
  | _ => []

/-- Look up an integer key of a map (`Value::at`). -/
def atKey (value : Value) (key : Int64) : Option Value :=
  (value.pairs.find? fun pair =>
    match pair.1.asInt with
    | .ok found => found == key
    | .error _ => false).map Prod.snd

/-- Strip the expected tag; an untagged item is returned as it is. -/
def untag (value : Value) (expected : UInt64) : Result Value :=
  match value with
  | .tag number content =>
      if number ≠ expected then teeAnchorError "cbor: unexpected tag number"
      else return content
  | untagged => return untagged

end Value

/-- How the containers' `reserve` answers a request for `count` elements of
`elementSize` bytes each. -/
structure Storage where
  reserve : (elementSize count : Nat) → Result Unit

def Storage.unlimited : Storage :=
  ⟨fun _ _ => return ()⟩

/-- The size in bytes of a `Value` and of a pair of them. -/
def sizeofValue : Nat := 120
def sizeofPair : Nat := 240

abbrev Decoder := Reader Exception UInt8

def rb : Decoder UInt8 := do
  match ← get with
  | [] => throw (.teeAnchorError "cbor: truncated input")
  | byte :: rest =>
      set rest
      return byte

def need (count : UInt64) : Decoder Unit := do
  if (← get).length < count.toNat then
    throw (.teeAnchorError "cbor: truncated item")

/-- Append `count` big-endian bytes to the value read so far. -/
def readBe : Nat → UInt64 → Decoder UInt64
  | 0, value => return value
  | count + 1, value => do
      readBe count ((value <<< 8) ||| (← rb).toUInt64)

def readLen (ai : UInt8) : Decoder UInt64 := do
  if ai < 24 then return ai.toUInt64
  if ai = 24 then return ← readBe 1 0
  if ai = 25 then return ← readBe 2 0
  if ai = 26 then return ← readBe 4 0
  if ai = 27 then return ← readBe 8 0
  throw (.teeAnchorError "cbor: indefinite/reserved length not supported")

/-- Hand out the next `count` bytes, which `need` has checked to be there. -/
def takeBytes (count : UInt64) : Decoder Bytes :=
  modifyGet fun input => (input.take count.toNat, input.drop count.toNat)

def readPair (readItem : Decoder Value) : Decoder (Value × Value) := do
  let key ← readItem
  let value ← readItem
  return (key, value)

/-- Read what follows the initial byte; `readItem` reads the nested items. -/
def readContents (storage : Storage) (readItem : Decoder Value)
    (mt : Nat) (ai : UInt8) : Decoder Value :=
  match mt with
  | 0 => return .uint (← readLen ai)
  | 1 => return .nint (← readLen ai)
  | 2 => do
      let n ← readLen ai
      need n
      return .bytes (← takeBytes n)
  | 3 => do
      let n ← readLen ai
      need n
      return .text (← takeBytes n)
  | 4 => do
      let n ← readLen ai
      storage.reserve sizeofValue n.toNat
      return .array (← repeatRead readItem n.toNat)
  | 5 => do
      let n ← readLen ai
      storage.reserve sizeofPair n.toNat
      return .map (← repeatRead (readPair readItem) n.toNat)
  | 6 => do
      let number ← readLen ai
      return .tag number (← readItem)
  | 7 => do
      -- simple values only; floats and break are refused
      if ai = 24 then return .simple (← rb).toUInt64
      if ai < 24 then return .simple ai.toUInt64
      throw (.teeAnchorError "cbor: float/break not supported")
  | _ => throw (.teeAnchorError "cbor: invalid major type")

/-- Read one item.  From `decode` the fuel never runs out, see
`readItem_fuel`. -/
def readItem (storage : Storage) : Nat → Decoder Value
  | 0 => throw (.stdException "recursion deeper than the input is long")
  | fuel + 1 => do
      let ib ← rb
      readContents storage (readItem storage fuel) (ib >>> 5).toNat (ib &&& 0x1f)

/-- Decode the item at the front of the input and keep what follows it. -/
def decodePrefix (storage : Storage) (input : Bytes) : Result (Value × Bytes) :=
  (readItem storage (input.length + 1)).run input

/-- `Decoder::decode`, which ignores the bytes after the item. -/
def decode (storage : Storage) (input : Bytes) : Result Value :=
  return (← decodePrefix storage input).1

/-- Write an initial byte and its argument in the shortest width up to four
bytes. -/
def encHead (mt : UInt8) (n : UInt64) : Bytes :=
  let b := mt <<< 5
  if n < 24 then [b ||| n.toUInt8]
  else if n < 256 then [b ||| 24, n.toUInt8]
  else if n < 65536 then [b ||| 25, (n >>> 8).toUInt8, n.toUInt8]
  else
    [b ||| 26, (n >>> 24).toUInt8, (n >>> 16).toUInt8, (n >>> 8).toUInt8,
      n.toUInt8]

def encBytes (content : Bytes) : Bytes :=
  encHead 2 (UInt64.ofNat content.length) ++ content

def encText (content : Bytes) : Bytes :=
  encHead 3 (UInt64.ofNat content.length) ++ content

end TeeAnchor.Cbor
