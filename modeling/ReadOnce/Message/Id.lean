import ReadOnce.Text.Hex

/-!
Ids of messages: random identifiers of version 4, drawn as sixteen bytes of which six bits are fixed, and
written as 32 lower-case digits in five groups.
-/
namespace ReadOnce.Message.Id

/-- Bytes drawn for an id. -/
def length : Nat := 16

/-- The bytes with the version and the variant set. -/
def mark (bytes : Bytes) : Bytes :=
  bytes.mapIdx fun place byte =>
    if place = 6 then (byte &&& 0x0f) ||| 0x40
    else if place = 8 then (byte &&& 0x3f) ||| 0x80
    else byte

/-- The id that sixteen bytes give. -/
def ofBytes (bytes : Bytes) : String :=
  let digits := (mark bytes).flatMap Text.Hex.pair
  let group (start count : Nat) : List Char := (digits.drop start).take count
  String.ofList (group 0 8 ++ '-' :: group 8 4 ++ '-' :: group 12 4 ++ '-' :: group 16 4 ++ '-' :: group 20 12)

end ReadOnce.Message.Id
