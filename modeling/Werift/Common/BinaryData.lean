import Werift.Js.Buffer

/-!
# Declarative binary data (`common/src/binaryData.ts`)

A schema is interpreted twice: `encode` walks through a value and writes it, `decode` reads a value.
Both keep a context, the root object and the one they are in, that lengths may depend on.  The object that
is read is in the context as far as it has been read.

Values have the types that their schema gives them; other values are not encoded here.  A length that a
callback returns is a natural number, or it is no length.
-/

namespace Werift.BinaryData

/-- The bytes of a buffer. -/
abbrev Bytes := List UInt8

/-- What `encode` and `decode` throw. -/
inductive BinaryError
  /-- `NotEnoughDataError`. -/
  | notEnoughData (expected received : ℕ)
  | typeError (message : String)
  | error (message : String)
  /-- A number that does not fit. -/
  | rangeError
  /-- No error: the loop over an array of items without bytes does not end. -/
  | endless
deriving DecidableEq

/-- A value of a schema. -/
inductive Value
  | undefined
  | number (n : ℤ)
  | buffer (bytes : Bytes)
  | string (s : String)
  | array (items : List Value)
  | object (fields : List (String × Value))

/-- `obj[key]`. -/
def Value.get (key : String) : Value → Value
  | .object fields => ((fields.find? fun field => field.1 = key).map Prod.snd).getD .undefined
  | _ => .undefined

/-- `BinaryContext`: the root object and the one being processed. -/
structure Context where
  node : Option Value := none
  current : Option Value := none

/-- `LengthCallback`; `none` is a result that is not a length. -/
abbrev LengthCallback := Context → Option ℕ

/-- `LengthSpec`: a fixed length, a prefix of `size` bytes, or a callback. -/
inductive LengthSpec
  | fixed (n : ℕ)
  | number (size : ℕ)
  | callback (length : LengthCallback)

/-- How texts are written as bytes and read. -/
structure Encoding where
  encode : String → Bytes
  decode : Bytes → String

/-- The units of UTF-16 of a character. -/
def utf16Units (c : Char) : List ℕ :=
  if c.toNat < 0x10000 then [c.toNat]
  else [0xd800 + (c.toNat - 0x10000) / 0x400, 0xdc00 + (c.toNat - 0x10000) % 0x400]

/-- `"ascii"`: the low octets of the units are written, and seven bits of an octet are read. -/
def Encoding.ascii : Encoding where
  encode s := s.toList.flatMap fun c => (utf16Units c).map UInt8.ofNat
  decode bytes := String.ofList (bytes.map fun b => Char.ofNat (b.toNat % 0x80))

/-- What the length of an array counts. -/
inductive LengthType
  | count
  | bytes
deriving DecidableEq

/-- A type or a schema.  The keys of a schema are pairwise different. -/
inductive TypeOrSchema
  | uintBE (size : ℕ)
  | buffer (length : LengthSpec)
  | array (type : TypeOrSchema) (length : LengthSpec) (lengthType : LengthType)
  | string (length : LengthSpec) (encoding : Encoding)
  | schema (fields : List (String × TypeOrSchema))

namespace types

def uint8 : TypeOrSchema := .uintBE 1
def uint16be : TypeOrSchema := .uintBE 2
def uint24be : TypeOrSchema := .uintBE 3
def uint32be : TypeOrSchema := .uintBE 4
def uint48be : TypeOrSchema := .uintBE 6

end types

/-! ## Writing -/

/-- `writer.writeUIntBE(value, size)`. -/
def writeUIntBE (value : ℤ) (size : ℕ) : Except BinaryError Bytes :=
  match Js.writeUIntBE size value with
  | some bytes => .ok bytes
  | none => .error .rangeError

/-- `checkLength(required, having, name)`. -/
def checkLength (required having : ℕ) (name : String) : Except BinaryError Unit :=
  if required = having then .ok ()
  else .error (.error (name ++ " required length " ++ toString required ++ " instead of " ++
    toString having))

/-- What `encode` writes in front of `having` bytes of a buffer or a string. -/
def LengthSpec.encode (length : LengthSpec) (context : Context) (having : ℕ)
    (checkFixed : ℕ → Except BinaryError Unit) : Except BinaryError Bytes :=
  match length with
  | .fixed n => (checkFixed n).map fun _ => []
  | .number size => writeUIntBE having size
  | .callback f =>
    match f context with
    | none => .error (.typeError "Length of a buffer should be a number.")
    | some expected => (checkLength expected having "Buffer").map fun _ => []

/-- `expectedSize` of an array before its items have been written. -/
def LengthSpec.expectedSize (length : LengthSpec) (context : Context) (count : ℕ) :
    Except BinaryError ℕ :=
  match length with
  | .fixed n => .ok n
  | .number _ => .ok count
  | .callback f =>
    match f context with
    | none => .error (.typeError "Length of an array should be a number.")
    | some n => .ok n

/-- What `encode` writes in front of the items of an array: `size` bytes and `count` items, where
`expectedSize` are expected. -/
def LengthSpec.encodeArray (length : LengthSpec) (lengthType : LengthType)
    (expectedSize size count : ℕ) : Except BinaryError Bytes :=
  match length, lengthType with
  | .number k, .bytes => writeUIntBE size k
  | .number k, .count => writeUIntBE count k
  | _, .bytes => (checkLength size expectedSize "Argument #1").map fun _ => []
  | _, .count => (checkLength expectedSize count "Argument #1").map fun _ => []

/-- The context behind a value that an array contains. -/
def TypeOrSchema.after (type : TypeOrSchema) (context : Context) (value : Value) : Context :=
  match type with
  | .schema _ => { node := some (context.node.getD value), current := some value }
  | _ => context

/-- The items of an array, one behind the other. -/
def encodeItems (type : TypeOrSchema) (encode : Context → Value → Except BinaryError Bytes) :
    Context → List Value → Except BinaryError Bytes
  | _, [] => .ok []
  | context, item :: items => do
    let bytes ← encode context item
    let rest ← encodeItems type encode (type.after context item) items
    return bytes ++ rest

mutual

/-- `encodeCommon(value, typeOrSchema, writer, context)`. -/
def encodeCommon : TypeOrSchema → Context → Value → Except BinaryError Bytes
  | .uintBE size, _, .number value => writeUIntBE value size
  | .buffer length, context, .buffer buf => do
    let pre ← length.encode context buf.length fun n => checkLength n buf.length "Buffer"
    return pre ++ buf
  | .array type length lengthType, context, .array items => do
    let expectedSize ← length.expectedSize context items.length
    let body ← encodeItems type (encodeCommon type) context items
    let pre ← length.encodeArray lengthType expectedSize body.length items.length
    return pre ++ body
  | .string length encoding, context, .string value => do
    let buf := encoding.encode value
    let pre ← length.encode context buf.length fun n =>
      if buf.length ≠ n then
        .error (.error ("Size of string should be " ++ toString n ++ " in bytes."))
      else .ok ()
    return pre ++ buf
  | .schema fields, context, obj =>
    encodeFields fields { node := some (context.node.getD obj), current := some obj } obj
  | _, _, _ => .error (.typeError "The value has not the type of the schema.")

/-- The loop of `encodeSchema`. -/
def encodeFields : List (String × TypeOrSchema) → Context → Value → Except BinaryError Bytes
  | [], _, _ => .ok []
  | (key, type) :: fields, context, obj => do
    let bytes ← encodeCommon type context (obj.get key)
    let rest ← encodeFields fields context obj
    return bytes ++ rest

end

/-- `encode(obj, typeOrSchema)`. -/
def encode (obj : Value) (typeOrSchema : TypeOrSchema) : Except BinaryError Bytes :=
  encodeCommon typeOrSchema {} obj

/-! ## Reading -/

/-- `reader.readBuffer(size)`. -/
def readBuffer (size : ℕ) (bytes : Bytes) : Except BinaryError (Bytes × Bytes) :=
  if size > bytes.length then .error (.notEnoughData size bytes.length)
  else .ok (bytes.take size, bytes.drop size)

/-- `reader.readUIntBE(size)`. -/
def readUIntBE (size : ℕ) (bytes : Bytes) : Except BinaryError (ℕ × Bytes) := do
  let (field, bytes) ← readBuffer size bytes
  return (BigEndian.decode field, bytes)

/-- The length that is read. -/
def LengthSpec.decode (length : LengthSpec) (context : Context) (message : String) (bytes : Bytes) :
    Except BinaryError (ℕ × Bytes) :=
  match length with
  | .fixed n => .ok (n, bytes)
  | .number size => readUIntBE size bytes
  | .callback f =>
    match f context with
    | none => .error (.typeError message)
    | some n => .ok (n, bytes)

/-- The loop over `n` items. -/
def decodeCount (type : TypeOrSchema)
    (decode : Context → Bytes → Except BinaryError (Value × Bytes)) :
    ℕ → Context → Bytes → Except BinaryError (List Value × Bytes)
  | 0, _, bytes => .ok ([], bytes)
  | n + 1, context, bytes => do
    let (item, bytes) ← decode context bytes
    let (items, bytes) ← decodeCount type decode n (type.after context item) bytes
    return (item :: items, bytes)

/-- The loop over items until `size` bytes have been read.  The fuel bounds the number of items. -/
def decodeBytes (type : TypeOrSchema)
    (decode : Context → Bytes → Except BinaryError (Value × Bytes)) :
    ℕ → Context → ℕ → Bytes → Except BinaryError (List Value × Bytes)
  | _, _, 0, bytes => .ok ([], bytes)
  | 0, _, _ + 1, _ => .error .endless
  | fuel + 1, context, size + 1, bytes => do
    let (item, rest) ← decode context bytes
    let used := bytes.length - rest.length
    if size + 1 < used then throw (.error "Incorrect length of an array.")
    let (items, rest) ←
      decodeBytes type decode fuel (type.after context item) (size + 1 - used) rest
    return (item :: items, rest)

mutual

/-- `decodeCommon(reader, typeOrSchema, context)`. -/
def decodeCommon (fuel : ℕ) : TypeOrSchema → Context → Bytes → Except BinaryError (Value × Bytes)
  | .uintBE size, _, bytes => do
    let (n, bytes) ← readUIntBE size bytes
    return (.number n, bytes)
  | .buffer length, context, bytes => do
    let (size, bytes) ← length.decode context "Length of a buffer should be a number." bytes
    let (buf, bytes) ← readBuffer size bytes
    return (.buffer buf, bytes)
  | .array type length lengthType, context, bytes => do
    let (expectedSize, bytes) ← length.decode context "Length of an array should be a number." bytes
    let (items, bytes) ← match lengthType with
      | .bytes => decodeBytes type (decodeCommon fuel type) fuel context expectedSize bytes
      | .count => decodeCount type (decodeCommon fuel type) expectedSize context bytes
    return (.array items, bytes)
  | .string length encoding, context, bytes => do
    let (size, bytes) ← length.decode context "Length of a buffer should be a number." bytes
    let (buf, bytes) ← readBuffer size bytes
    return (.string (encoding.decode buf), bytes)
  | .schema fields, context, bytes => do
    let (node, bytes) ← decodeFields fuel fields context.node [] bytes
    return (.object node, bytes)

/-- The loop of `decodeSchema` behind the fields `node`; `root` is the root object if the object is not
the root itself. -/
def decodeFields (fuel : ℕ) : List (String × TypeOrSchema) → Option Value → List (String × Value) →
    Bytes → Except BinaryError (List (String × Value) × Bytes)
  | [], _, node, bytes => .ok (node, bytes)
  | (key, type) :: fields, root, node, bytes => do
    let (value, bytes) ← decodeCommon fuel type
      { node := some (root.getD (.object node)), current := some (.object node) } bytes
    decodeFields fuel fields root (node ++ [(key, value)]) bytes

end

/-- `decode(buf, typeOrSchema)`, and the bytes that are left. -/
def decode (fuel : ℕ) (buf : Bytes) (typeOrSchema : TypeOrSchema) :
    Except BinaryError (Value × Bytes) :=
  decodeCommon fuel typeOrSchema {} buf

end Werift.BinaryData
