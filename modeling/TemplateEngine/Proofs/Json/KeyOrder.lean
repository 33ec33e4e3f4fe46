/-
  TemplateEngine.Proofs.Json.KeyOrder — the order of keys is that of their bytes.

  Strings are compared character by character. A character that comes later in that order
  has later bytes, at the first place where the bytes of the two differ: where it has more
  bytes already the first one is larger, and the bytes after that are its digits.

  Proved:
  - `utf8EncodeChar_lt`: later characters have later bytes, whatever follows them.
  - `keyBytes_lt_iff`: so have later strings.
  - `sortByKey_eq`: entries sorted by their keys are sorted by the bytes of their keys.
-/

import TemplateEngine.Json.ToData

namespace TemplateEngine.Json

/-! ## Characters -/

/-- One digit of two numbers: a smaller one decides, and equal ones leave it to the rest. -/
theorem ofNat_cons_lt {a b : Nat} {s s' : List UInt8} (hle : a ≤ b) (hb : b < 256)
    (hrest : a = b → s < s') : UInt8.ofNat a :: s < UInt8.ofNat b :: s' := by
  rw [List.cons_lt_cons_iff]
  rcases Nat.lt_or_eq_of_le hle with hlt | rfl
  · refine .inl (UInt8.lt_iff_toNat_lt.mpr ?_)
    rwa [UInt8.toNat_ofNat_of_lt' (Nat.lt_trans hlt hb), UInt8.toNat_ofNat_of_lt' hb]
  · exact .inr ⟨rfl, hrest rfl⟩

theorem utf8EncodeChar_lt {c c' : Char} (h : c < c') (s s' : List UInt8) :
    String.utf8EncodeChar c ++ s < String.utf8EncodeChar c' ++ s' := by
  have hlt : c.val.toNat < c'.val.toNat := h
  have hbound : c'.val.toNat < 0x110000 := by
    rcases c'.valid with hvalid | ⟨-, hvalid⟩ <;> omega
  simp only [String.utf8EncodeChar]
  generalize c.val.toNat = n at hlt ⊢
  generalize c'.val.toNat = n' at hlt hbound ⊢
  -- one case for each two lengths; the earlier character is not the longer one
  repeat' split
  all_goals
    simp only [List.cons_append, List.nil_append]
    repeat' refine ofNat_cons_lt ?_ ?_ fun hdigit => ?_
  all_goals omega

/-! ## Strings -/

def keyBytes (key : String) : List UInt8 := key.toUTF8.data.toList

theorem keyBytes_eq (key : String) : keyBytes key = key.toList.flatMap String.utf8EncodeChar := by
  obtain ⟨cs, rfl⟩ : ∃ cs, key = String.ofList cs := ⟨key.toList, String.ofList_toList.symm⟩
  rw [keyBytes, String.toList_ofList]
  show (String.ofList cs).toByteArray.data.toList = _
  rw [String.toByteArray_ofList]
  exact List.toList_data_toByteArray

theorem flatMap_utf8EncodeChar_lt {cs cs' : List Char} (h : cs < cs') :
    cs.flatMap String.utf8EncodeChar < cs'.flatMap String.utf8EncodeChar := by
  induction h with
  | @nil c cs =>
    rw [List.flatMap_nil, List.flatMap_cons]
    cases hbytes : String.utf8EncodeChar c with
    | nil => exact absurd hbytes String.utf8EncodeChar_ne_nil
    | cons => exact .nil
  | @rel c cs c' cs' hlt => exact utf8EncodeChar_lt hlt _ _
  | @cons c cs cs' _ ih =>
    rw [List.flatMap_cons, List.flatMap_cons]
    exact List.append_left_lt ih

theorem keyBytes_lt_iff (a b : String) : a < b ↔ keyBytes a < keyBytes b := by
  rw [keyBytes_eq, keyBytes_eq]
  have hmono (a b : String) (h : a < b) :
      a.toList.flatMap String.utf8EncodeChar < b.toList.flatMap String.utf8EncodeChar :=
    flatMap_utf8EncodeChar_lt h
  constructor
  · exact hmono a b
  · intro h
    refine Decidable.byContradiction fun hnot => ?_
    rcases Decidable.em (a = b) with rfl | hne
    · exact List.lt_irrefl _ h
    · have hlt : b < a := Decidable.byContradiction fun hnot' => hne (String.le_antisymm hnot' hnot)
      exact List.lt_asymm h (hmono b a hlt)

theorem keyBytes_le_iff (a b : String) : a ≤ b ↔ keyBytes a ≤ keyBytes b := not_congr (keyBytes_lt_iff b a)

/-! ## Entries -/

/-- Entries in the order of the bytes of their keys. -/
def sortByKeyBytes {α : Type} (t : Table α) : Table α :=
  t.mergeSort fun a b => decide (keyBytes a.1 ≤ keyBytes b.1)

theorem sortByKey_eq {α : Type} (t : Table α) : sortByKey t = sortByKeyBytes t := by
  unfold sortByKey sortByKeyBytes
  congr 1
  funext a b
  exact decide_eq_decide.mpr (keyBytes_le_iff a.1 b.1)

theorem put_of_not_mem {α : Type} {t : Table α} {key : String} (h : key ∉ Table.keys t) (value : α) :
    Table.put key value t = t ++ [(key, value)] := by
  induction t with
  | nil => rfl
  | cons e t ih =>
    obtain ⟨k, v⟩ := e
    have hk : k ≠ key ∧ key ∉ Table.keys t := by simpa [Table.keys, eq_comm] using h
    rw [Table.put, if_neg hk.1, ih hk.2]
    rfl

theorem foldl_put_of_nodup {α : Type} (entries t : Table α) (h : (Table.keys (t ++ entries)).Nodup) :
    entries.foldl (fun t e => t.put e.1 e.2) t = t ++ entries := by
  induction entries generalizing t with
  | nil => exact (List.append_nil t).symm
  | cons e rest ih =>
    have hnew : e.1 ∉ Table.keys t := by
      intro hmem
      rw [Table.keys, List.map_append, List.map_cons] at h
      exact (List.nodup_append.mp h).2.2 e.1 hmem e.1 (List.mem_cons_self ..) rfl
    have hsplit : t ++ [(e.1, e.2)] ++ rest = t ++ e :: rest := by
      rw [List.append_assoc, List.singleton_append]
    rw [List.foldl_cons, put_of_not_mem hnew, ih _ (by rwa [hsplit]), hsplit]

/-- Entries with keys of their own are all kept, in their order. -/
theorem ofEntries_of_nodup {α : Type} {entries : Table α} (h : (Table.keys entries).Nodup) :
    Table.ofEntries entries = entries := foldl_put_of_nodup entries [] h

end TemplateEngine.Json
