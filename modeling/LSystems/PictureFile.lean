import LSystems.Raster

namespace LSystems

/-- The bytes of a number, the most significant first. -/
def bigEndian : Nat → Nat → List UInt8
  | 0, _ => []
  | count + 1, n => bigEndian count (n / 256) ++ [UInt8.ofNat n]

/-- The bytes of a number, the least significant first. -/
def littleEndian : Nat → Nat → List UInt8
  | 0, _ => []
  | count + 1, n => UInt8.ofNat n :: littleEndian count (n / 256)

/-- The remainder of one more byte in the cyclic check of PNG. -/
def crcByte (crc : UInt32) (byte : UInt8) : UInt32 :=
  let bit (c : UInt32) : UInt32 := if c &&& 1 = 1 then (0xEDB88320 : UInt32) ^^^ (c >>> 1) else c >>> 1
  let c := crc ^^^ byte.toUInt32
  bit (bit (bit (bit (bit (bit (bit (bit c)))))))

/-- The cyclic check of some bytes. -/
def crcOf (bytes : ByteArray) : UInt32 :=
  (bytes.foldl crcByte (0xFFFFFFFF : UInt32)) ^^^ (0xFFFFFFFF : UInt32)

/-- The sum that ends a zlib stream. -/
def adlerOf (bytes : ByteArray) : Nat :=
  let (a, b) := bytes.foldl
    (fun (a, b) byte =>
      let a := (a + byte.toNat) % 65521
      (a, (b + a) % 65521)) (1, 0)
  b * 65536 + a

/-- Bytes made of a list. -/
def bytesOf (bytes : List UInt8) : ByteArray := ⟨bytes.toArray⟩

/-- The stored blocks of a zlib stream, each of at most 65535 bytes. -/
def storedBlocks (bytes : ByteArray) (start : Nat) : Nat → ByteArray
  | 0 => .empty
  | blocks + 1 =>
    let length := min 65535 (bytes.size - start)
    let last := if blocks = 0 then 1 else 0
    bytesOf (last :: (littleEndian 2 length ++ littleEndian 2 (65535 - length)))
      ++ bytes.extract start (start + length) ++ storedBlocks bytes (start + length) blocks

/-- A zlib stream that stores bytes as they are. -/
def zlibOf (bytes : ByteArray) : ByteArray :=
  bytesOf [0x78, 0x01] ++ storedBlocks bytes 0 (max 1 ((bytes.size + 65534) / 65535))
    ++ bytesOf (bigEndian 4 (adlerOf bytes))

/-- A chunk of a PNG file. -/
def pngChunk (name : String) (content : ByteArray) : ByteArray :=
  let body := name.toUTF8 ++ content
  bytesOf (bigEndian 4 content.size) ++ body ++ bytesOf (bigEndian 4 (crcOf body).toNat)

namespace Raster

/-- The bytes of the pixels of a row. -/
def rowBytes (r : Raster) (order : Colour → List Nat) (row : Nat) : ByteArray :=
  (r.pixels.extract (row * r.width) ((row + 1) * r.width)).foldl
    (fun bytes colour => (order colour).foldl (fun bytes n => bytes.push (UInt8.ofNat n)) bytes)
    .empty

/-- A PNG file of the pixels. -/
def toPng (r : Raster) : ByteArray :=
  let header := bytesOf (bigEndian 4 r.width ++ bigEndian 4 r.height ++ [8, 2, 0, 0, 0])
  let rows := (List.range r.height).foldl
    (fun bytes row => bytes.push 0 ++ r.rowBytes (fun c => [c.red, c.green, c.blue]) row) .empty
  bytesOf [0x89, 0x50, 0x4E, 0x47, 0x0D, 0x0A, 0x1A, 0x0A] ++ pngChunk "IHDR" header
    ++ pngChunk "IDAT" (zlibOf rows) ++ pngChunk "IEND" .empty

/-- A TGA file of the pixels. -/
def toTga (r : Raster) : ByteArray :=
  let header := bytesOf ([0, 0, 2, 0, 0, 0, 0, 0, 0, 0, 0, 0] ++ littleEndian 2 r.width
    ++ littleEndian 2 r.height ++ [24, 0x20])
  (List.range r.height).foldl
    (fun bytes row => bytes ++ r.rowBytes (fun c => [c.blue, c.green, c.red]) row) header

end Raster

end LSystems
