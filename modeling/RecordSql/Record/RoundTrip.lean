import RecordSql.DateTime.RoundTrip
import RecordSql.Number.Exact
import RecordSql.Record.Member

/-!
# Members read back

* `Member.toJson_ofJson`: a JSON value is kept by its member.
* `Storage.decode_encode`: a field that cannot be absent gets back what it held.
-/

namespace RecordSql

open Number

theorem Number.int64?_toInt (i : Int64) : int64? i.toInt = some i := by
  rw [int64?, if_pos ⟨i.le_toInt, i.toInt_lt⟩, Int64.ofInt_toInt]

namespace Member

mutual

theorem toJson_ofJson : (j : Json) → (ofJson j).toJson = j
  | .null => rfl
  | .bool _ => rfl
  | .int _ => rfl
  | .float _ => rfl
  | .text _ => rfl
  | .array js => congrArg Json.array (toJsonAll_ofJsonAll js)
  | .object ms => congrArg Json.object (toJsonMembers_ofJsonMembers ms)

theorem toJsonAll_ofJsonAll : (js : List Json) → toJsonAll (ofJsonAll js) = js
  | [] => rfl
  | j :: js => by rw [ofJsonAll, toJsonAll, toJson_ofJson j, toJsonAll_ofJsonAll js]

theorem toJsonMembers_ofJsonMembers :
    (ms : List (String × Json)) → toJsonMembers (ofJsonMembers ms) = ms
  | [] => rfl
  | (k, j) :: ms => by
    rw [ofJsonMembers, toJsonMembers, toJson_ofJson j, toJsonMembers_ofJsonMembers ms]

end

theorem toInt_int {w : IntWidth} (i : { i : Int64 // w.Has i }) :
    toInt w (.int i.val.toInt) = .ok i := by
  simp [toInt, int64?_toInt, i.2]

theorem byteList_map (bs : List UInt8) : byteList (bs.map fun b => .int b.toNat) = .ok bs := by
  induction bs with
  | nil => rfl
  | cons b bs ih =>
    have hb : b.toNat < 256 := b.toNat_lt
    have ht : (Int64.ofInt b.toNat).toInt = b.toNat := by
      rw [Int64.toInt_ofInt_of_le (by omega) (by omega)]
    have hw : IntWidth.u8.Has (Int64.ofInt b.toNat) := by
      unfold IntWidth.Has
      rw [ht]
      show (0 : Int) ≤ b.toNat ∧ (b.toNat : Int) ≤ 255
      omega
    have hm := toInt_int ⟨_, hw⟩
    rw [ht] at hm
    rw [List.map_cons, byteList, hm, ih]
    simp [Except.map, ht]

theorem toFloat_convert {F : Format} (hw : F.Within .double) (name : String) (x : Binary F) :
    (Member.float x.convert).toFloat name = .ok x := by
  rw [toFloat, Binary.convert_convert hw]

theorem toDateTime_text (t : DateTime) : (Member.text (t.text 'T')).toDateTime = .ok t := by
  rw [toDateTime, DateTime.readIso_text]

theorem toUuid_text (u : Uuid) : (Member.text u.text).toUuid = .ok u := by
  rw [toUuid, Uuid.read, Uuid.read?_text]

end Member

namespace Storage

/-- **Decoding undoes encoding** for a field that cannot be absent. -/
theorem decode_encode {s : Storage} (h : ∀ t, s ≠ .optional t) (x : s.Carrier) :
    s.decode (s.encode x) = .ok x := by
  cases s with
  | int w => exact Member.toInt_int x
  | bool | text => rfl
  | float32 => exact Member.toFloat_convert Format.within_single_double "f32" x
  | float64 => exact congrArg Except.ok (Binary.convert_self (x : Double))
  | bytes => exact Member.byteList_map x
  | dateTime => exact Member.toDateTime_text x
  | uuid => exact Member.toUuid_text x
  | json => exact congrArg Except.ok (Member.toJson_ofJson x)
  | optional t => exact absurd rfl (h t)

end Storage

end RecordSql
