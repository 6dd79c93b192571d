import ArchKit.Radix.LittleEndian

/-! Values that are spelled in a fixed number of bytes. -/

namespace Radix

structure Layout (α : Type) where
  size : Nat
  encode : α → List UInt8
  decode : List UInt8 → Option α
  encode_length : ∀ value, (encode value).length = size
  decode_encode : ∀ value, decode (encode value) = some value

namespace Layout
variable {α β : Type}

def byte : Layout UInt8 where
  size := 1
  encode value := [value]
  decode
    | [value] => some value
    | _ => none
  encode_length _ := rfl
  decode_encode _ := rfl

/-- A little-endian `u64`. -/
def word : Layout UInt64 where
  size := 8
  encode value := toLittleEndian 8 value.toNat
  decode bytes := some (UInt64.ofNat (ofLittleEndian bytes))
  encode_length _ := toLittleEndian_length ..
  decode_encode value := by rw [ofLittleEndian_to value.toNat_lt, UInt64.ofNat_toNat]

def pair (first : Layout α) (second : Layout β) : Layout (α × β) where
  size := first.size + second.size
  encode value := first.encode value.1 ++ second.encode value.2
  decode bytes := do
    let value ← first.decode (bytes.take first.size)
    let other ← second.decode (bytes.drop first.size)
    return (value, other)
  encode_length value := by rw [List.length_append, first.encode_length, second.encode_length]
  decode_encode value := by
    rw [List.take_left' (first.encode_length _), List.drop_left' (first.encode_length _), first.decode_encode,
      second.decode_encode]
    rfl

/-- The same bytes for other values. -/
def convert (layout : Layout α) (into : α → Option β) (back : β → α) (inverse : ∀ value, into (back value) = some value) :
    Layout β where
  size := layout.size
  encode value := layout.encode (back value)
  decode bytes := (layout.decode bytes).bind into
  encode_length value := layout.encode_length (back value)
  decode_encode value := by rw [layout.decode_encode, Option.bind_some, inverse]

/-- Four bytes tell whether there is a value; without one its bytes are zero. -/
def option (layout : Layout α) : Layout (Option α) where
  size := 4 + layout.size
  encode
    | none => [0, 0, 0, 0] ++ List.replicate layout.size 0
    | some value => [1, 0, 0, 0] ++ layout.encode value
  decode bytes :=
    if bytes.take 4 = [0, 0, 0, 0] then some none
    else if bytes.take 4 = [1, 0, 0, 0] then (layout.decode (bytes.drop 4)).map some
    else none
  encode_length value := by
    cases value with
    | none => rw [List.length_append, List.length_replicate]; rfl
    | some value => rw [List.length_append, layout.encode_length]; rfl
  decode_encode value := by
    cases value with
    | none => rfl
    | some value => simp [layout.decode_encode]

end Layout
end Radix
