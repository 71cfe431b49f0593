import SlaSettle.Watcher.Endpoint
import SlaSettle.Go.Time

/-!
# Decoding contract values

`decodeScValNative` of `internal/contract`: the native Go value of an XDR `ScVal`. In the Go type
every arm is a pointer, and the arms of vectors and maps are pointers to pointers, since XDR makes
their payload optional. A nil outer pointer is reported; the code follows the inner one unchecked,
and panics when it is nil.
-/

namespace SlaSettle

namespace Watcher

/-! ### Values -/

/-- `xdr.ScVal`. The argument of an arm is `none` for a nil pointer. -/
inductive ScVal where
  | bool (b : Option Bool)
  | void
  | u32 (n : Option ℕ)
  | i32 (n : Option ℤ)
  | u64 (n : Option ℕ)
  | i64 (n : Option ℤ)
  | i128 (parts : Option (ℤ × ℕ))
  | bytes (b : Option (List UInt8))
  | string (s : Option GoString)
  | symbol (s : Option GoString)
  /-- With the result of `Address.String()`. -/
  | address (a : Option (Except GoString GoString))
  | vec (elems : List ScVal)
  | map (entries : List (ScVal × ScVal))
  /-- A vector whose inner pointer is nil. -/
  | vecOfNil
  /-- A map whose inner pointer is nil. -/
  | mapOfNil
  /-- A vector whose outer pointer is nil. -/
  | nilVec
  /-- A map whose outer pointer is nil. -/
  | nilMap
  /-- A value of another type. -/
  | other (type : String)

/-- The `interface{}` values the decoder returns. -/
inductive GoValue where
  | nil
  | bool (b : Bool)
  | uint32 (n : ℕ)
  | int32 (n : ℤ)
  | uint64 (n : ℕ)
  | int64 (n : ℤ)
  | bigInt (n : ℤ)
  | string (s : GoString)
  | bytes (b : List UInt8)
  | slice (elems : List GoValue)
  | record (fields : List (GoString × GoValue))

inductive DecodeError where
  | noValue (type : String)
  | key (type : String)
  | field (name : GoString) (err : DecodeError)
  | element (index : ℕ) (err : DecodeError)
  | address (err : GoString)
  | unhandled (type : String)

/-- How decoding can end other than with a value. -/
inductive DecodeStop where
  | err (e : DecodeError)
  /-- Dereferencing a nil pointer. -/
  | nilPointer

/-- The name of a value's type. -/
def ScVal.type : ScVal → String
  | bool _ => "ScValTypeScvBool"
  | void => "ScValTypeScvVoid"
  | u32 _ => "ScValTypeScvU32"
  | i32 _ => "ScValTypeScvI32"
  | u64 _ => "ScValTypeScvU64"
  | i64 _ => "ScValTypeScvI64"
  | i128 _ => "ScValTypeScvI128"
  | bytes _ => "ScValTypeScvBytes"
  | string _ => "ScValTypeScvString"
  | symbol _ => "ScValTypeScvSymbol"
  | address _ => "ScValTypeScvAddress"
  | vec _ | vecOfNil | nilVec => "ScValTypeScvVec"
  | map _ | mapOfNil | nilMap => "ScValTypeScvMap"
  | other type => type

/-! ### Maps -/

/-- `record[key] = value`. -/
def setField (fields : List (GoString × GoValue)) (key : GoString) (value : GoValue) :
    List (GoString × GoValue) :=
  (fields.filter fun f => f.1 ≠ key) ++ [(key, value)]

/-- `record[key]`. -/
def getField? (fields : List (GoString × GoValue)) (key : GoString) : Option GoValue :=
  (fields.find? fun f => f.1 = key).map Prod.snd

/-- A field that was set is read back, and the others are as before. -/
theorem getField?_setField (fields : List (GoString × GoValue)) (key key' : GoString)
    (value : GoValue) :
    getField? (setField fields key value) key' =
      if key' = key then some value else getField? fields key' := by
  unfold getField? setField
  rw [List.find?_append, List.find?_filter]
  by_cases h : key' = key
  · subst h
    have hnone : (fields.find? fun f =>
        decide (decide (f.1 ≠ key') = true ∧ decide (f.1 = key') = true)) = none := by
      rw [List.find?_eq_none]
      intro f _
      simp
    rw [hnone, if_pos rfl, List.find?_singleton, if_pos (by simp)]
    rfl
  · have hsame : (fun f : GoString × GoValue =>
        decide (decide (f.1 ≠ key) = true ∧ decide (f.1 = key') = true)) =
        fun f => decide (f.1 = key') := by
      funext f
      by_cases hf : f.1 = key'
      · simp [hf, h]
      · simp [hf]
    rw [hsame, if_neg h, List.find?_singleton, if_neg (by simpa using Ne.symm h), Option.or_none]

/-! ### Decoding -/

/-- An arm that holds a pointer to its value. -/
def arm {α : Type} (type : String) (value : Option α) (f : α → GoValue) :
    Except DecodeStop GoValue :=
  match value with
  | some a => .ok (f a)
  | none => .error (.err (.noValue type))

mutual

def decodeScValNative : ScVal → Except DecodeStop GoValue
  | .bytes b => arm "scvBytes" b .bytes
  | .nilMap => .error (.err (.noValue "scvMap"))
  | .mapOfNil => .error .nilPointer
  | .map entries => (decodeEntries [] entries).map .record
  | .nilVec => .error (.err (.noValue "scvVec"))
  | .vecOfNil => .error .nilPointer
  | .vec elems => (decodeElements 0 elems).map .slice
  | .void => .ok .nil
  | .bool b => arm "scvBool" b .bool
  | .u32 n => arm "scvU32" n .uint32
  | .i32 n => arm "scvI32" n .int32
  | .u64 n => arm "scvU64" n .uint64
  | .i64 n => arm "scvI64" n .int64
  | .i128 parts => arm "scvI128" parts fun (hi, lo) => .bigInt (hi * 2 ^ 64 + lo)
  | .symbol s => arm "scvSymbol" s .string
  | .string s => arm "scvString" s .string
  | .address none => .error (.err (.noValue "scvAddress"))
  | .address (some (.ok address)) => .ok (.string address)
  | .address (some (.error err)) => .error (.err (.address err))
  | .other type => .error (.err (.unhandled type))

/-- The loop over the entries of a map, from the record built so far. -/
def decodeEntries (record : List (GoString × GoValue)) :
    List (ScVal × ScVal) → Except DecodeStop (List (GoString × GoValue))
  | [] => .ok record
  | (.symbol (some key), val) :: entries =>
    match decodeScValNative val with
    | .ok value => decodeEntries (setField record key value) entries
    | .error (.err e) => .error (.err (.field key e))
    | .error .nilPointer => .error .nilPointer
  | (key, _) :: _ => .error (.err (.key key.type))

/-- The loop over the elements of a vector, from its index. -/
def decodeElements (index : ℕ) : List ScVal → Except DecodeStop (List GoValue)
  | [] => .ok []
  | elem :: elems =>
    match decodeScValNative elem with
    | .ok value => (decodeElements (index + 1) elems).map (value :: ·)
    | .error (.err e) => .error (.err (.element index e))
    | .error .nilPointer => .error .nilPointer

end

end Watcher

end SlaSettle
