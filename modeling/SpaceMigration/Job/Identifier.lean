import SpaceMigration.Json.Printer

/-!
# Identifiers of jobs

A job is identified by a random UUID: 32 hexadecimal digits in groups of 8, 4, 4, 4 and 12. Six of
its 128 bits say that it is random.
-/

namespace SpaceMigration.JobId

/-- The two digits of a byte. -/
def byteDigits (byte : UInt8) : List Char :=
  [Json.hexDigit (byte.toNat / 16), Json.hexDigit (byte.toNat % 16)]

/-- The bytes with the bits set that say that the others are random. -/
def mark (bytes : List UInt8) : List UInt8 :=
  bytes.mapIdx fun i byte =>
    if i = 6 then byte &&& 0x0F ||| 0x40 else if i = 8 then byte &&& 0x3F ||| 0x80 else byte

/-- The identifier made of 16 random bytes. -/
def ofRandom (bytes : List UInt8) : String :=
  let digits := (mark bytes).map byteDigits
  let group (start length : Nat) : List Char := ((digits.drop start).take length).flatten
  String.ofList <| List.intercalate ['-']
    [group 0 4, group 4 2, group 6 2, group 8 2, group 10 6]

end SpaceMigration.JobId
