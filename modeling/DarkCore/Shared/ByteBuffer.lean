/-
Byte buffers (`ByteBuffer.h`) and the operators `<<` and `>>` for the values
that are put into them. A failed assertion ends the server: there is no buffer
then.
-/

import DarkCore.Lib.LittleEndian

namespace DarkCore.Shared

open Lib

inductive Scalar where
  | uint8 | uint16 | uint32 | uint64
  | int8 | int16 | int32 | int64
  | float | double
  deriving DecidableEq

/-- `sizeof` -/
def Scalar.size : Scalar → Nat
  | .uint8 | .int8 => 1
  | .uint16 | .int16 => 2
  | .uint32 | .int32 | .float => 4
  | .uint64 | .int64 | .double => 8

inductive Ty where
  | scalar (kind : Scalar)
  | string
  | vector (item : Ty)
  | list (item : Ty)
  | map (key value : Ty)
  deriving DecidableEq

/-- A floating-point number is its bits, a string its characters, a map its entries in the order
of their keys. -/
@[reducible] def Val : Ty → Type
  | .scalar kind => BitVec (8 * kind.size)
  | .string => List UInt8
  | .vector item => List (Val item)
  | .list item => List (Val item)
  | .map key value => List (Val key × Val value)

def floatLess {width : Nat} (infinity : Nat) (first second : BitVec width) : Bool :=
  let magnitude (bits : BitVec width) : Nat := bits.toNat % 2 ^ (width - 1)
  let number (bits : BitVec width) : Int :=
    if bits.msb then -(magnitude bits : Int) else magnitude bits
  decide (magnitude first ≤ infinity) && decide (magnitude second ≤ infinity) &&
    decide (number first < number second)

def Scalar.less : (kind : Scalar) → (first second : BitVec (8 * kind.size)) → Bool
  | .uint8 | .uint16 | .uint32 | .uint64 => BitVec.ult
  | .int8 | .int16 | .int32 | .int64 => BitVec.slt
  | .float => floatLess 0x7F800000
  | .double => floatLess 0x7FF0000000000000

/-- `std::lexicographical_compare` -/
def lexLess {α : Type} (less : α → α → Bool) : List α → List α → Bool
  | _, [] => false
  | [], _ :: _ => true
  | first :: firsts, second :: seconds =>
    if less first second then true
    else if less second first then false
    else lexLess less firsts seconds

def pairLess {α β : Type} (less : α → α → Bool) (lessSecond : β → β → Bool)
    (first second : α × β) : Bool :=
  less first.1 second.1 || (!less second.1 first.1 && lessSecond first.2 second.2)

/-- `operator<` -/
def less : (type : Ty) → Val type → Val type → Bool
  | .scalar kind => kind.less
  | .string => lexLess fun first second => first < second
  | .vector item => lexLess (less item)
  | .list item => lexLess (less item)
  | .map key value => lexLess (pairLess (less key) (less value))

/-- `std::map::insert`: an entry whose key is there already is not inserted. -/
def insertKey {κ ν : Type} (less : κ → κ → Bool) (new : κ × ν) : List (κ × ν) → List (κ × ν)
  | [] => [new]
  | entry :: rest =>
    if less entry.1 new.1 then entry :: insertKey less new rest
    else if less new.1 entry.1 then new :: entry :: rest
    else entry :: rest

structure ByteBuffer where
  storage : List UInt8 := []
  rpos : Nat := 0
  wpos : Nat := 0
  deriving DecidableEq

structure ByteBufferException where
  add : Bool
  pos : Nat
  esize : Nat
  size : Nat
  deriving DecidableEq

namespace ByteBuffer

def size (buffer : ByteBuffer) : Nat := buffer.storage.length

/-- The bound that `append` asserts -/
def sizeLimit : Nat := 10000000

def append (buffer : ByteBuffer) (bytes : List UInt8) : Option ByteBuffer :=
  if bytes = [] then some buffer
  else if buffer.size < sizeLimit then
    let after := buffer.wpos + bytes.length
    let resized := buffer.storage ++ List.replicate (after - buffer.size) 0
    some { buffer with
      storage := resized.take buffer.wpos ++ bytes ++ resized.drop after
      wpos := after }
  else none

/-- Bytes over those at a position; behind the end it is an exception. -/
def put (buffer : ByteBuffer) (pos : Nat) (bytes : List UInt8) : Option ByteBuffer :=
  if buffer.size < pos + bytes.length then none
  else
    some { buffer with
      storage := buffer.storage.take pos ++ bytes ++ buffer.storage.drop (pos + bytes.length) }

def writeMany {α : Type} (writeItem : ByteBuffer → α → Option ByteBuffer) :
    ByteBuffer → List α → Option ByteBuffer
  | buffer, [] => some buffer
  | buffer, item :: rest => (writeItem buffer item).bind fun after => writeMany writeItem after rest

/-- The count is cast to `uint32`. -/
def writeCounted {α : Type} (writeItem : ByteBuffer → α → Option ByteBuffer)
    (buffer : ByteBuffer) (items : List α) : Option ByteBuffer :=
  (buffer.append (leBytes 4 items.length)).bind fun counted => writeMany writeItem counted items

/-- `operator<<` -/
def write : (type : Ty) → ByteBuffer → Val type → Option ByteBuffer
  | .scalar kind => fun buffer value => buffer.append (leBytes kind.size value.toNat)
  | .string => fun buffer value => (buffer.append value).bind fun after => after.append [0]
  | .vector item => writeCounted (write item)
  | .list item => writeCounted (write item)
  | .map key value => writeCounted fun buffer entry =>
    (write key buffer entry.1).bind fun after => write value after entry.2

abbrev Reader (α : Type) := ByteBuffer → Except ByteBufferException (α × ByteBuffer)

def Reader.yield {α : Type} (value : α) : Reader α := fun buffer => .ok (value, buffer)

def Reader.andThen {α β : Type} (reader : Reader α) (next : α → Reader β) : Reader β :=
  fun buffer =>
    match reader buffer with
    | .error exception => .error exception
    | .ok (value, after) => next value after

/-- `read<T>()` as far as the bytes of the value -/
def readBytes (width : Nat) : Reader (List UInt8) := fun buffer =>
  if buffer.rpos + width > buffer.size then
    .error { add := false, pos := buffer.rpos, esize := width, size := buffer.size }
  else
    .ok ((buffer.storage.drop buffer.rpos).take width, { buffer with rpos := buffer.rpos + width })

def readCount : Reader Nat := (readBytes 4).andThen fun bytes => Reader.yield (ofLeBytes bytes)

/-- The loop of `operator>>` for strings, on the bytes between `rpos` and `size`: the characters
and the number of bytes that were read. -/
def readChars : List UInt8 → List UInt8 × Nat
  | [] => ([], 0)
  | char :: rest =>
    if char = 0 then ([], 1)
    else (char :: (readChars rest).1, (readChars rest).2 + 1)

def readString : Reader (List UInt8) := fun buffer =>
  let result := readChars (buffer.storage.drop buffer.rpos)
  .ok (result.1, { buffer with rpos := buffer.rpos + result.2 })

def readMany {α : Type} (readItem : Reader α) : Nat → Reader (List α)
  | 0 => Reader.yield []
  | count + 1 => readItem.andThen fun item =>
    (readMany readItem count).andThen fun items => Reader.yield (item :: items)

/-- The loop of `operator>>` for maps -/
def readEntries {κ ν : Type} (less : κ → κ → Bool) (readKey : Reader κ) (readValue : Reader ν) :
    Nat → List (κ × ν) → Reader (List (κ × ν))
  | 0, entries => Reader.yield entries
  | count + 1, entries => readKey.andThen fun key => readValue.andThen fun value =>
    readEntries less readKey readValue count (insertKey less (key, value) entries)

def readCounted {α : Type} (readItems : Nat → Reader α) : Reader α := readCount.andThen readItems

/-- `operator>>` -/
def read : (type : Ty) → Reader (Val type)
  | .scalar kind => (readBytes kind.size).andThen fun bytes =>
    Reader.yield (BitVec.ofNat _ (ofLeBytes bytes))
  | .string => readString
  | .vector item => readCounted (readMany (read item))
  | .list item => readCounted (readMany (read item))
  | .map key value => readCounted fun count =>
    readEntries (less key) (read key) (read value) count []

abbrev Typed := Σ type : Ty, Val type

def Typed.uint8 (value : Nat) : Typed := ⟨.scalar .uint8, BitVec.ofNat _ value⟩
def Typed.uint16 (value : Nat) : Typed := ⟨.scalar .uint16, BitVec.ofNat _ value⟩
def Typed.uint32 (value : Nat) : Typed := ⟨.scalar .uint32, BitVec.ofNat _ value⟩
def Typed.uint64 (value : Nat) : Typed := ⟨.scalar .uint64, BitVec.ofNat _ value⟩
def Typed.int32 (value : Int) : Typed := ⟨.scalar .int32, BitVec.ofInt _ value⟩

def writeAll (buffer : ByteBuffer) (values : List Typed) : Option ByteBuffer :=
  writeMany (fun buffer value => write value.1 buffer value.2) buffer values

def readAll : List Ty → Reader (List Typed)
  | [] => Reader.yield []
  | type :: types => (read type).andThen fun value =>
    (readAll types).andThen fun values => Reader.yield (⟨type, value⟩ :: values)

end ByteBuffer

end DarkCore.Shared
