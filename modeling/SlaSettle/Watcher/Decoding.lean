import Mathlib.Data.List.Forall2
import SlaSettle.Store.LastWrite
import SlaSettle.Watcher.ScVal

/-!
# What decoding makes of a value

`Represents scv v` says that the Go value `v` is the contract value `scv`, element by element and
field by field. `FaithfullyDecoded scv` is what decoding should come to: no nil pointer is followed,
and a value that is returned represents the one that was decoded.

`MeetsNil scv` says that going through `scv` in order, a vector or map without a payload comes
before anything that cannot be decoded. Then decoding panics, and otherwise it is faithful
(`faithfullyDecoded_iff`).
-/

namespace SlaSettle

namespace Watcher

open Go Store

/-! ### Values, element by element -/

/-- The field that a key names. -/
def fieldName? : ScVal → Option GoString
  | .symbol s => s
  | _ => none

/-- The last entry of a field. -/
def lastEntryOf? (key : GoString) (entries : List (ScVal × ScVal)) : Option ScVal :=
  lastWrite (fun e : ScVal × ScVal => fieldName? e.1) Prod.snd (some key) entries

/-- **The Go value of a contract value.** A vector keeps its elements in order, a field is its last
entry, and an `i128` is put together from its signed and its unsigned half. -/
inductive Represents : ScVal → GoValue → Prop
  | void : Represents .void .nil
  | bool (b : Bool) : Represents (.bool (some b)) (.bool b)
  | u32 (n : ℕ) : Represents (.u32 (some n)) (.uint32 n)
  | i32 (n : ℤ) : Represents (.i32 (some n)) (.int32 n)
  | u64 (n : ℕ) : Represents (.u64 (some n)) (.uint64 n)
  | i64 (n : ℤ) : Represents (.i64 (some n)) (.int64 n)
  | i128 (hi : ℤ) (lo : ℕ) : Represents (.i128 (some (hi, lo))) (.bigInt (hi * 2 ^ 64 + lo))
  | bytes (b : List UInt8) : Represents (.bytes (some b)) (.bytes b)
  | string (s : GoString) : Represents (.string (some s)) (.string s)
  | symbol (s : GoString) : Represents (.symbol (some s)) (.string s)
  | address (a : GoString) : Represents (.address (some (.ok a))) (.string a)
  | vec {elems : List ScVal} {values : List GoValue} (hlength : values.length = elems.length)
      (helems : ∀ (i : ℕ) elem value, elems[i]? = some elem → values[i]? = some value →
        Represents elem value) : Represents (.vec elems) (.slice values)
  | map {entries : List (ScVal × ScVal)} {fields : List (GoString × GoValue)}
      (hnames : ∀ e ∈ entries, (fieldName? e.1).isSome = true)
      (hfields : ∀ key, (getField? fields key).isSome = (lastEntryOf? key entries).isSome)
      (hvalues : ∀ key val value, lastEntryOf? key entries = some val →
        getField? fields key = some value → Represents val value) :
      Represents (.map entries) (.record fields)

/-- **Decoding as it should be:** it follows no nil pointer, and what it returns represents its
input. -/
structure FaithfullyDecoded (scv : ScVal) : Prop where
  safe : decodeScValNative scv ≠ .error .nilPointer
  represents : ∀ value, decodeScValNative scv = .ok value → Represents scv value

/-! ### Payloads that are absent -/

/-- Everything in the value is there and of a type that is decoded. -/
inductive Readable : ScVal → Prop
  | void : Readable .void
  | bool (b : Bool) : Readable (.bool (some b))
  | u32 (n : ℕ) : Readable (.u32 (some n))
  | i32 (n : ℤ) : Readable (.i32 (some n))
  | u64 (n : ℕ) : Readable (.u64 (some n))
  | i64 (n : ℤ) : Readable (.i64 (some n))
  | i128 (parts : ℤ × ℕ) : Readable (.i128 (some parts))
  | bytes (b : List UInt8) : Readable (.bytes (some b))
  | string (s : GoString) : Readable (.string (some s))
  | symbol (s : GoString) : Readable (.symbol (some s))
  | address (a : GoString) : Readable (.address (some (.ok a)))
  | vec {elems : List ScVal} (helems : ∀ e ∈ elems, Readable e) : Readable (.vec elems)
  | map {entries : List (ScVal × ScVal)}
      (hnames : ∀ e ∈ entries, (fieldName? e.1).isSome = true)
      (hvalues : ∀ e ∈ entries, Readable e.2) : Readable (.map entries)

/-- An entry of a field that is readable. -/
def ReadableEntry (e : ScVal × ScVal) : Prop := (fieldName? e.1).isSome = true ∧ Readable e.2

/-- A vector or a map has no payload, and everything before it is readable. -/
inductive MeetsNil : ScVal → Prop
  | vecOfNil : MeetsNil .vecOfNil
  | mapOfNil : MeetsNil .mapOfNil
  | vec {before after : List ScVal} {elem : ScVal} (hbefore : ∀ e ∈ before, Readable e)
      (helem : MeetsNil elem) : MeetsNil (.vec (before ++ elem :: after))
  | map {before after : List (ScVal × ScVal)} {key val : ScVal}
      (hbefore : ∀ e ∈ before, ReadableEntry e) (hname : (fieldName? key).isSome = true)
      (hval : MeetsNil val) : MeetsNil (.map (before ++ (key, val) :: after))

/-- A value is decoded through the elements of its vectors and the entries of its maps. -/
theorem ScVal.inductionOn {P : ScVal → Prop}
    (hvec : ∀ elems, (∀ e ∈ elems, P e) → P (.vec elems))
    (hmap : ∀ entries, (∀ e ∈ entries, P e.2) → P (.map entries))
    (hleaf : ∀ scv, (∀ elems, scv ≠ .vec elems) → (∀ entries, scv ≠ .map entries) → P scv)
    (scv : ScVal) : P scv := by
  cases scv with
  | vec elems => exact hvec elems fun e _ => inductionOn hvec hmap hleaf e
  | map entries => exact hmap entries fun e _ => inductionOn hvec hmap hleaf e.2
  | _ => exact hleaf _ nofun nofun
termination_by sizeOf scv
decreasing_by
  · have hlt := List.sizeOf_lt_of_mem ‹e ∈ elems›
    simp only [ScVal.vec.sizeOf_spec]
    omega
  · have hlt := List.sizeOf_lt_of_mem ‹e ∈ entries›
    obtain ⟨key, val⟩ := e
    simp only [Prod.mk.sizeOf_spec] at hlt
    simp only [ScVal.map.sizeOf_spec]
    omega

/-! ### Lists of values -/

section

variable {ε α β : Type} {x : Except ε α} {f : α → β}

theorem map_eq_ok_iff {b : β} : x.map f = .ok b ↔ ∃ a, x = .ok a ∧ f a = b := by
  cases x <;> simp [Except.map]

theorem map_eq_error_iff {e : ε} : x.map f = .error e ↔ x = .error e := by
  cases x <;> simp [Except.map]

end

theorem decodeEntries_of_name {record : List (GoString × GoValue)} {key val : ScVal}
    {name : GoString} {entries : List (ScVal × ScVal)} (hname : fieldName? key = some name) :
    decodeEntries record ((key, val) :: entries) =
      match decodeScValNative val with
      | .ok value => decodeEntries (setField record name value) entries
      | .error (.err e) => .error (.err (.field name e))
      | .error .nilPointer => .error .nilPointer := by
  cases key with
  | symbol s =>
    obtain rfl : s = some name := hname
    rcases hval : decodeScValNative val with (e | _) | value <;> simp only [decodeEntries, hval]
  | _ => cases hname

theorem decodeEntries_of_no_name {record : List (GoString × GoValue)} {key val : ScVal}
    {entries : List (ScVal × ScVal)} (hname : fieldName? key = none) :
    decodeEntries record ((key, val) :: entries) = .error (.err (.key key.type)) := by
  cases key with
  | symbol s =>
    obtain rfl : s = none := hname
    rw [decodeEntries]
    exact nofun
  | _ =>
    rw [decodeEntries]
    exact nofun

section

variable {P : ScVal → GoValue → Prop} {elems : List ScVal} {entries : List (ScVal × ScVal)}

/-- Elements that decode to values in order. -/
theorem decodeElements_eq_ok {index : ℕ} {values : List GoValue}
    (hP : ∀ e ∈ elems, ∀ v, decodeScValNative e = .ok v → P e v)
    (h : decodeElements index elems = .ok values) : List.Forall₂ P elems values := by
  induction elems generalizing index values with
  | nil =>
    cases h
    exact .nil
  | cons elem elems ih =>
    obtain ⟨helem, helems⟩ := List.forall_mem_cons.mp hP
    rw [decodeElements] at h
    split at h
    · rename_i value hvalue
      obtain ⟨values', hrest, rfl⟩ := map_eq_ok_iff.mp h
      exact .cons (helem value hvalue) (ih helems hrest)
    · cases h
    · cases h

theorem decodeElements_of_ok (h : ∀ e ∈ elems, ∃ v, decodeScValNative e = .ok v) (index : ℕ) :
    ∃ values, decodeElements index elems = .ok values := by
  induction elems generalizing index with
  | nil => exact ⟨[], rfl⟩
  | cons elem elems ih =>
    obtain ⟨⟨value, hvalue⟩, helems⟩ := List.forall_mem_cons.mp h
    obtain ⟨values, hvalues⟩ := ih helems (index + 1)
    exact ⟨value :: values, by simp only [decodeElements, hvalue, hvalues]; rfl⟩

/-- Elements that decode do not stop a vector. -/
theorem decodeElements_append {before after : List ScVal} {elem : ScVal}
    (hbefore : ∀ e ∈ before, ∃ v, decodeScValNative e = .ok v)
    (helem : decodeScValNative elem = .error .nilPointer) (index : ℕ) :
    decodeElements index (before ++ elem :: after) = .error .nilPointer := by
  induction before generalizing index with
  | nil => simp only [List.nil_append, decodeElements, helem]
  | cons e before ih =>
    obtain ⟨⟨value, hvalue⟩, hbefore⟩ := List.forall_mem_cons.mp hbefore
    simp only [List.cons_append, decodeElements, hvalue, ih hbefore]
    rfl

/-- A vector follows a nil pointer in one of its elements, and those before it decode. -/
theorem decodeElements_eq_nilPointer {index : ℕ}
    (h : decodeElements index elems = .error .nilPointer) :
    ∃ before elem after, elems = before ++ elem :: after ∧
      (∀ e ∈ before, ∃ v, decodeScValNative e = .ok v) ∧
      decodeScValNative elem = .error .nilPointer := by
  induction elems generalizing index with
  | nil => cases h
  | cons elem elems ih =>
    rw [decodeElements] at h
    split at h
    · rename_i value hvalue
      obtain ⟨before, elem', after, rfl, hbefore, helem'⟩ := ih (map_eq_error_iff.mp h)
      exact ⟨elem :: before, elem', after, rfl,
        List.forall_mem_cons.mpr ⟨⟨value, hvalue⟩, hbefore⟩, helem'⟩
    · cases h
    · rename_i helem
      exact ⟨[], elem, elems, rfl, nofun, helem⟩

/-- Entries that decode: each names a field, and a field of the record is its last entry or was
there before. -/
theorem decodeEntries_eq_ok {record fields : List (GoString × GoValue)}
    (hP : ∀ e ∈ entries, ∀ v, decodeScValNative e.2 = .ok v → P e.2 v)
    (h : decodeEntries record entries = .ok fields) :
    (∀ e ∈ entries, (fieldName? e.1).isSome = true ∧ ∃ v, decodeScValNative e.2 = .ok v) ∧
      ∀ key, (lastEntryOf? key entries = none ∧ getField? fields key = getField? record key) ∨
        ∃ val value, lastEntryOf? key entries = some val ∧ getField? fields key = some value ∧
          P val value := by
  induction entries generalizing record with
  | nil =>
    cases h
    exact ⟨nofun, fun key => .inl ⟨rfl, rfl⟩⟩
  | cons entry entries ih =>
    obtain ⟨key, val⟩ := entry
    obtain ⟨hentry, hentries⟩ := List.forall_mem_cons.mp hP
    cases hname : fieldName? key with
    | none =>
      rw [decodeEntries_of_no_name hname] at h
      cases h
    | some name =>
    rw [decodeEntries_of_name hname] at h
    split at h
    · rename_i value hvalue
      obtain ⟨hnames, hfields⟩ := ih hentries h
      refine ⟨List.forall_mem_cons.mpr ⟨⟨by simp [hname], value, hvalue⟩, hnames⟩, fun key' => ?_⟩
      have hlast : lastEntryOf? key' ((key, val) :: entries) =
          (lastEntryOf? key' entries).or (if name = key' then some val else none) := by
        rw [lastEntryOf?, lastWrite_cons, hname]
        simp only [Option.some.injEq]
        rfl
      rcases hfields key' with ⟨hnone, hsame⟩ | ⟨val', value', hsome, hfield, hP'⟩
      · rw [getField?_setField] at hsame
        by_cases hkey : name = key'
        · subst hkey
          rw [if_pos rfl] at hsame
          exact .inr ⟨val, value, by rw [hlast, hnone, if_pos rfl]; rfl, hsame, hentry value hvalue⟩
        · rw [if_neg (Ne.symm hkey)] at hsame
          exact .inl ⟨by rw [hlast, hnone, if_neg hkey]; rfl, hsame⟩
      · exact .inr ⟨val', value', by rw [hlast, hsome]; rfl, hfield, hP'⟩
    · cases h
    · cases h

/-- An entry that decodes to a field. -/
def DecodesEntry (e : ScVal × ScVal) : Prop :=
  (fieldName? e.1).isSome = true ∧ ∃ v, decodeScValNative e.2 = .ok v

/-- Entries that decode do not stop a map. -/
theorem decodeEntries_append {before : List (ScVal × ScVal)}
    (hbefore : ∀ e ∈ before, DecodesEntry e) (after : List (ScVal × ScVal))
    (record : List (GoString × GoValue)) :
    ∃ record', decodeEntries record (before ++ after) = decodeEntries record' after := by
  induction before generalizing record with
  | nil => exact ⟨record, rfl⟩
  | cons e before ih =>
    obtain ⟨key, val⟩ := e
    obtain ⟨⟨hname, value, hvalue⟩, hbefore⟩ := List.forall_mem_cons.mp hbefore
    obtain ⟨name, hname⟩ := Option.isSome_iff_exists.mp hname
    obtain ⟨record', hrecord'⟩ := ih hbefore (setField record name value)
    refine ⟨record', ?_⟩
    rw [List.cons_append, decodeEntries_of_name hname, hvalue]
    exact hrecord'

/-- A map follows a nil pointer in one of its entries, and those before it decode. -/
theorem decodeEntries_eq_nilPointer {record : List (GoString × GoValue)}
    (h : decodeEntries record entries = .error .nilPointer) :
    ∃ before key val after, entries = before ++ (key, val) :: after ∧
      (∀ e ∈ before, DecodesEntry e) ∧ (fieldName? key).isSome = true ∧
      decodeScValNative val = .error .nilPointer := by
  induction entries generalizing record with
  | nil => cases h
  | cons entry entries ih =>
    obtain ⟨key, val⟩ := entry
    cases hname : fieldName? key with
    | none =>
      rw [decodeEntries_of_no_name hname] at h
      cases h
    | some name =>
    rw [decodeEntries_of_name hname] at h
    split at h
    · rename_i value hvalue
      obtain ⟨before, key', val', after, rfl, hbefore, hname', hval'⟩ := ih h
      exact ⟨(key, val) :: before, key', val', after, rfl,
        List.forall_mem_cons.mpr ⟨⟨by simp [hname], value, hvalue⟩, hbefore⟩, hname', hval'⟩
    · cases h
    · rename_i hval
      exact ⟨[], key, val, entries, rfl, nofun, by simp [hname], hval⟩

end

/-! ### Decoding -/

/-- What is readable is decoded. -/
theorem Readable.decodes {scv : ScVal} (h : Readable scv) :
    ∃ value, decodeScValNative scv = .ok value := by
  induction h with
  | vec _ ih =>
    obtain ⟨values, hvalues⟩ := decodeElements_of_ok ih 0
    exact ⟨.slice values, by rw [decodeScValNative, hvalues]; rfl⟩
  | map hnames _ ih =>
    obtain ⟨fields, hfields⟩ := decodeEntries_append (fun e he => ⟨hnames e he, ih e he⟩) [] []
    rw [List.append_nil] at hfields
    exact ⟨.record fields, by rw [decodeScValNative, hfields]; rfl⟩
  | _ => exact ⟨_, rfl⟩

/-- An absent payload is followed. -/
theorem MeetsNil.decodes {scv : ScVal} (h : MeetsNil scv) :
    decodeScValNative scv = .error .nilPointer := by
  induction h with
  | vecOfNil | mapOfNil => rfl
  | vec hbefore _ ih =>
    rw [decodeScValNative, decodeElements_append (fun e he => (hbefore e he).decodes) ih 0]
    rfl
  | @map before after key val hbefore hname _ ih =>
    obtain ⟨record, hrecord⟩ := decodeEntries_append
      (fun e he => ⟨(hbefore e he).1, (hbefore e he).2.decodes⟩) ((key, val) :: after) []
    obtain ⟨name, hname⟩ := Option.isSome_iff_exists.mp hname
    rw [decodeScValNative, hrecord, decodeEntries_of_name hname, ih]
    rfl

/-- A value that is returned represents the one that was decoded, which is readable. -/
theorem represents_of_decode (scv : ScVal) :
    ∀ value, decodeScValNative scv = .ok value → Readable scv ∧ Represents scv value := by
  induction scv using ScVal.inductionOn with
  | hvec elems ih =>
    intro value h
    rw [decodeScValNative] at h
    obtain ⟨values, hdecoded, rfl⟩ := map_eq_ok_iff.mp h
    obtain ⟨hreadable, hall⟩ := (List.forall₂_and_left _ _).mp (decodeElements_eq_ok ih hdecoded)
    refine ⟨.vec hreadable, .vec hall.length_eq.symm fun i elem value helem hvalue => ?_⟩
    obtain ⟨hi, rfl⟩ := List.getElem?_eq_some_iff.mp helem
    obtain ⟨hi', rfl⟩ := List.getElem?_eq_some_iff.mp hvalue
    exact hall.get hi hi'
  | hmap entries ih =>
    intro value h
    rw [decodeScValNative] at h
    obtain ⟨fields, hdecoded, rfl⟩ := map_eq_ok_iff.mp h
    obtain ⟨hnames, hfields⟩ := decodeEntries_eq_ok
      (P := fun scv value => Readable scv ∧ Represents scv value) ih hdecoded
    refine ⟨.map (fun e he => (hnames e he).1) fun e he => ?_, .map (fun e he => (hnames e he).1)
      (fun key => ?_) fun key val value hlast hfield => ?_⟩
    · obtain ⟨v, hv⟩ := (hnames e he).2
      exact (ih e he v hv).1
    · rcases hfields key with ⟨hnone, hsame⟩ | ⟨val, value, hsome, hfield, -⟩
      · rw [hnone, hsame]
        rfl
      · rw [hsome, hfield]
        rfl
    · rcases hfields key with ⟨hnone, -⟩ | ⟨val', value', hsome, hfield', hrep⟩
      · rw [hnone] at hlast
        cases hlast
      · rw [hsome] at hlast
        rw [hfield'] at hfield
        cases hlast
        cases hfield
        exact hrep.2
  | hleaf scv hvec hmap =>
    intro value h
    cases scv with
    | vec elems => exact absurd rfl (hvec elems)
    | map entries => exact absurd rfl (hmap entries)
    | void =>
      cases h
      exact ⟨.void, .void⟩
    | address a =>
      rcases a with _ | (_ | a) <;> cases h
      exact ⟨.address a, .address a⟩
    | bool b | u32 b | i32 b | u64 b | i64 b | i128 b | bytes b | string b | symbol b =>
      cases b with
      | none => cases h
      | some b =>
        cases h
        constructor <;> constructor
    | _ => cases h

/-- Where a nil pointer is followed, there is an absent payload. -/
theorem meetsNil_of_decode (scv : ScVal) :
    decodeScValNative scv = .error .nilPointer → MeetsNil scv := by
  induction scv using ScVal.inductionOn with
  | hvec elems ih =>
    intro h
    rw [decodeScValNative] at h
    obtain ⟨before, elem, after, rfl, hbefore, helem⟩ :=
      decodeElements_eq_nilPointer (map_eq_error_iff.mp h)
    refine .vec (fun e he => ?_) (ih elem (by simp) helem)
    obtain ⟨value, hvalue⟩ := hbefore e he
    exact (represents_of_decode e value hvalue).1
  | hmap entries ih =>
    intro h
    rw [decodeScValNative] at h
    obtain ⟨before, key, val, after, rfl, hbefore, hname, hval⟩ :=
      decodeEntries_eq_nilPointer (map_eq_error_iff.mp h)
    refine .map (fun e he => ?_) hname (ih (key, val) (by simp) hval)
    obtain ⟨hname, value, hvalue⟩ := hbefore e he
    exact ⟨hname, (represents_of_decode e.2 value hvalue).1⟩
  | hleaf scv hvec hmap =>
    intro h
    cases scv with
    | vec elems => exact absurd rfl (hvec elems)
    | map entries => exact absurd rfl (hmap entries)
    | vecOfNil => exact .vecOfNil
    | mapOfNil => exact .mapOfNil
    | address a => rcases a with _ | (_ | a) <;> cases h
    | bool b | u32 b | i32 b | u64 b | i64 b | i128 b | bytes b | string b | symbol b =>
      cases b <;> cases h
    | _ => cases h

/-- **When decoding is as it should be:** exactly when no absent payload is met before something
that cannot be decoded. -/
theorem faithfullyDecoded_iff (scv : ScVal) : FaithfullyDecoded scv ↔ ¬ MeetsNil scv := by
  constructor
  · intro h hmeets
    exact h.safe hmeets.decodes
  · intro hmeets
    exact ⟨fun h => hmeets (meetsNil_of_decode scv h),
      fun value h => (represents_of_decode scv value h).2⟩

/-- The record of an SLA whose only field is a vector without a payload. -/
theorem decoding_panics :
    decodeScValNative (.map [(.symbol (some (bytes "status")), .vecOfNil)]) =
        .error .nilPointer ∧
      ¬ FaithfullyDecoded (.map [(.symbol (some (bytes "status")), .vecOfNil)]) := by
  have hpanics : decodeScValNative (.map [(.symbol (some (bytes "status")), .vecOfNil)]) =
      .error .nilPointer := rfl
  exact ⟨hpanics, fun h => h.safe hpanics⟩

end Watcher

end SlaSettle
