/-
  TemplateEngine.Proofs.Json.RoundTrip — values written as JSON and read back.

  Whatever library is at hand, if it keeps its laws: the text that it writes of a value is a
  text of the value's data (`Value.data`), so these are read. They stand for the value, but
  for what JSON has no word for: characters come back as strings, and the entries of maps
  by the bytes of their keys (`Value.plain`). Doubles are left out; a map with a key that
  stands twice would lose an entry.

  Proved:
  - `encode_text` / `encode_items` / `encode_entries`: the text of a value is one of its data,
    and so are the parts of lists and maps.
  - `ofData_data`: the data of a value stand for its plain form.
  - `json_round_trip`: what has been encoded as JSON is read as the plain form of the value,
    up to the depth that the reader goes to.
-/

import TemplateEngine.Function.Builtin
import TemplateEngine.Proofs.Json.Library
import TemplateEngine.Proofs.Value.Parts

namespace TemplateEngine

open Json

namespace Value

/-! ## Values and what they are read as -/

mutual

/-- How many lists and maps stand inside each other. -/
def depth : Value → Nat
  | list items => depthOfItems items + 1
  | map entries => depthOfEntries entries + 1
  | _ => 0

def depthOfItems : List Value → Nat
  | [] => 0
  | v :: rest => max (depth v) (depthOfItems rest)

def depthOfEntries : List (String × Value) → Nat
  | [] => 0
  | (_, v) :: rest => max (depth v) (depthOfEntries rest)

end

mutual

/-- The value with strings for characters and the entries of maps in the order of the bytes
    of their keys. -/
def plain : Value → Value
  | null => null
  | bool b => bool b
  | int n => int n
  | float x => float x
  | char c => string (String.singleton c)
  | string s => string s
  | list items => list (plainItems items)
  | map entries => map (sortByKeyBytes (plainEntries entries))

def plainItems : List Value → List Value
  | [] => []
  | v :: rest => plain v :: plainItems rest

def plainEntries : List (String × Value) → List (String × Value)
  | [] => []
  | (key, v) :: rest => (key, plain v) :: plainEntries rest

end

mutual

/-- What a value is as data. -/
def data : Value → Data
  | null => .null
  | bool b => .bool b
  | int n => .number (.ofWord n)
  | float x => .number ⟨none, some x⟩
  | char c => .string c.toString
  | string s => .string s
  | list items => .array (dataItems items)
  | map entries => .object (sortByKeyBytes (Table.ofEntries (dataEntries entries)))

def dataItems : List Value → List Data
  | [] => []
  | v :: rest => data v :: dataItems rest

def dataEntries : List (String × Value) → List (String × Data)
  | [] => []
  | (key, v) :: rest => (key, data v) :: dataEntries rest

end

theorem depth_le_of_mem_items {items : List Value} {v : Value} (h : v ∈ items) : v.depth ≤ depthOfItems items := by
  induction h with
  | head => exact Nat.le_max_left ..
  | tail _ _ ih => exact ih.trans (Nat.le_max_right ..)

theorem depth_le_of_mem_entries {entries : List (String × Value)} {e : String × Value} (h : e ∈ entries) :
    e.2.depth ≤ depthOfEntries entries := by
  induction h with
  | head => exact Nat.le_max_left ..
  | tail _ _ ih => exact ih.trans (Nat.le_max_right ..)

end Value

namespace Json

/-! ## Values as texts -/

theorem toList_container {opening closing : String} {o c : Char} (ho : opening.toList = [o])
    (hc : closing.toList = [c]) (texts : List String) :
    (opening ++ ",".intercalate texts ++ closing).toList =
      o :: ([','].intercalate (texts.map String.toList) ++ [c]) := by
  rw [String.toList_append, String.toList_append, String.toList_intercalate, ho, hc]
  rfl

theorem toList_member (key value : String) : (key ++ ":" ++ value).toList = key.toList ++ ':' :: value.toList := by
  rw [String.toList_append, String.toList_append, List.append_assoc]
  rfl

section

variable {encode : Encoder} {depth : Nat}

theorem encode_items {items : List Value}
    (h : ∀ v ∈ items, ∃ text, encode v = .ok text ∧ DocumentText depth text.toList v.data) :
    ∃ texts, List.Forall₂ (fun v text => encode v = .ok text) items texts ∧
      List.Forall₂ (DocumentText depth) (texts.map String.toList) (Value.dataItems items) := by
  induction items with
  | nil => exact ⟨[], .nil, by rw [Value.dataItems]; exact .nil⟩
  | cons v rest ih =>
    obtain ⟨⟨text, hwritten, htext⟩, hrest⟩ := List.forall_mem_cons.mp h
    obtain ⟨texts, hmore, htexts⟩ := ih hrest
    rw [Value.dataItems]
    exact ⟨text :: texts, .cons hwritten hmore, .cons htext htexts⟩

variable (hencode : encode.Lawful)
include hencode

theorem encode_entries {entries : List (String × Value)}
    (h : ∀ e ∈ entries, ∃ text, encode e.2 = .ok text ∧ DocumentText depth text.toList e.2.data) :
    ∃ texts, List.Forall₂ (fun e text => ∃ key value, encode (.string e.1) = .ok key ∧
        encode e.2 = .ok value ∧ text = key ++ ":" ++ value) entries texts ∧
      List.Forall₂ (MemberText (DocumentText depth)) (texts.map String.toList) (Value.dataEntries entries) := by
  induction entries with
  | nil => exact ⟨[], .nil, by rw [Value.dataEntries]; exact .nil⟩
  | cons e rest ih =>
    obtain ⟨⟨value, hwritten, hvalue⟩, hrest⟩ := List.forall_mem_cons.mp h
    obtain ⟨key, hkey, hname⟩ := hencode.string e.1
    obtain ⟨texts, hmore, htexts⟩ := ih hrest
    rw [Value.dataEntries]
    exact ⟨(key ++ ":" ++ value) :: texts, .cons ⟨key, value, hkey, hwritten, rfl⟩ hmore,
      .cons ⟨key.toList, value.toList, hname, hvalue, toList_member key value⟩ htexts⟩

/-- The depth that is left goes down with every container. -/
theorem encode_text (v : Value) (h : v.Portable) (hdepth : v.depth ≤ depth) :
    ∃ text, encode v = .ok text ∧ DocumentText depth text.toList v.data := by
  induction v using Value.value_induction generalizing depth with
  | step v ih =>
  cases v with
  | null =>
    rw [Value.data]
    exact ⟨_, hencode.null, documentText_of_scalar .null depth⟩
  | bool b =>
    rw [Value.data]
    exact ⟨_, hencode.bool b, documentText_of_scalar (.bool b) depth⟩
  | int n =>
    rw [Value.data]
    exact ⟨_, hencode.whole n, documentText_of_scalar (.whole n) depth⟩
  | float x => exact absurd h (Value.not_portable_float x)
  | char c =>
    obtain ⟨text, hwritten, htext⟩ := hencode.string c.toString
    rw [Value.data]
    exact ⟨text, (hencode.char c).trans hwritten, documentText_of_scalar (.string htext) depth⟩
  | string s =>
    obtain ⟨text, hwritten, htext⟩ := hencode.string s
    rw [Value.data]
    exact ⟨text, hwritten, documentText_of_scalar (.string htext) depth⟩
  | list items =>
    rw [Value.depth] at hdepth
    obtain ⟨n, rfl⟩ : ∃ n, depth = n + 1 := ⟨depth - 1, by omega⟩
    obtain ⟨texts, hwritten, htexts⟩ := encode_items fun v hv =>
      ih v hv (Value.portable_list.mp h v hv)
        ((Value.depth_le_of_mem_items hv).trans (Nat.le_of_succ_le_succ hdepth))
    refine ⟨_, hencode.list hwritten, .inr ?_⟩
    rw [Value.data, toList_container rfl rfl]
    exact .array htexts
  | map entries =>
    rw [Value.depth] at hdepth
    obtain ⟨n, rfl⟩ : ∃ n, depth = n + 1 := ⟨depth - 1, by omega⟩
    obtain ⟨texts, hwritten, htexts⟩ := encode_entries hencode fun e he =>
      ih e.2 (List.mem_map_of_mem he) ((Value.portable_map.mp h).2 e he)
        ((Value.depth_le_of_mem_entries he).trans (Nat.le_of_succ_le_succ hdepth))
    refine ⟨_, hencode.map hwritten, .inr ?_⟩
    rw [Value.data, toList_container rfl rfl]
    exact .object htexts

end

/-! ## Data as values -/

theorem keys_dataEntries (entries : List (String × Value)) :
    Table.keys (Value.dataEntries entries) = Table.keys entries := by
  induction entries with
  | nil =>
    rw [Value.dataEntries]
    rfl
  | cons e rest ih =>
    obtain ⟨key, v⟩ := e
    rw [Value.dataEntries]
    exact congrArg (key :: ·) ih

theorem ofMembers_eq_map (members : List (String × Data)) :
    Value.ofMembers members = members.map fun m => (m.1, Value.ofData m.2) := by
  induction members with
  | nil => rw [Value.ofMembers, List.map_nil]
  | cons m rest ih => rw [Value.ofMembers, ih, List.map_cons]

theorem ofMembers_sortByKeyBytes (members : List (String × Data)) :
    Value.ofMembers (sortByKeyBytes members) = sortByKeyBytes (Value.ofMembers members) := by
  rw [ofMembers_eq_map, ofMembers_eq_map]
  exact List.map_mergeSort fun _ _ _ _ => rfl

theorem nodup_keys_sortByKeyBytes {α : Type} {t : Table α} (h : t.keys.Nodup) : (sortByKeyBytes t).keys.Nodup := by
  have hperm : (sortByKeyBytes t).Perm t := List.mergeSort_perm t _
  exact (hperm.map Prod.fst).nodup_iff.mpr h

theorem ofItems_dataItems {items : List Value} (h : ∀ v ∈ items, Value.ofData v.data = v.plain) :
    Value.ofItems (Value.dataItems items) = Value.plainItems items := by
  induction items with
  | nil => rw [Value.dataItems, Value.plainItems, Value.ofItems]
  | cons v rest ih =>
    obtain ⟨hfirst, hrest⟩ := List.forall_mem_cons.mp h
    rw [Value.dataItems, Value.plainItems, Value.ofItems, hfirst, ih hrest]

theorem ofMembers_dataEntries {entries : List (String × Value)}
    (h : ∀ e ∈ entries, Value.ofData e.2.data = e.2.plain) :
    Value.ofMembers (Value.dataEntries entries) = Value.plainEntries entries := by
  induction entries with
  | nil => rw [Value.dataEntries, Value.plainEntries, Value.ofMembers]
  | cons e rest ih =>
    obtain ⟨hfirst, hrest⟩ := List.forall_mem_cons.mp h
    rw [Value.dataEntries, Value.plainEntries, Value.ofMembers, hfirst, ih hrest]

theorem ofData_data (v : Value) (h : v.Portable) : Value.ofData v.data = v.plain := by
  induction v using Value.value_induction with
  | step v ih =>
  cases v with
  | float x => exact absurd h (Value.not_portable_float x)
  | list items =>
    have hdata := ofItems_dataItems fun v (hv : v ∈ items) => ih v hv (Value.portable_list.mp h v hv)
    rw [Value.data, Value.plain, Value.ofData, hdata]
  | map entries =>
    obtain ⟨hkeys, hentries⟩ := Value.portable_map.mp h
    have hdata := ofMembers_dataEntries fun e he => ih e.2 (List.mem_map_of_mem he) (hentries e he)
    rw [← keys_dataEntries] at hkeys
    have hplain : (Table.keys (Value.plainEntries entries)).Nodup := by
      rw [← hdata, ofMembers_eq_map, Table.keys, List.map_map]
      exact hkeys
    rw [Value.data, Value.plain, Value.ofData, ofEntries_of_nodup hkeys, ofMembers_sortByKeyBytes, hdata,
      ofEntries_of_nodup (nodup_keys_sortByKeyBytes hplain)]
  | int n =>
    rw [Value.data, Value.plain, Value.ofData]
    rfl
  | char c =>
    rw [Value.data, Value.plain, Value.ofData]
    rfl
  | _ => rw [Value.data, Value.plain, Value.ofData]

/-! ## There and back -/

/-- A value that JSON can tell, and that is not null, can be encoded. The text is read as the
    value again, with strings for its characters and the entries of its maps by the bytes
    of their keys. -/
theorem json_round_trip {encode : Encoder} (hencode : encode.Lawful) {decode : Decoder} (hdecode : decode.Lawful)
    (v : Value) (hnull : v ≠ .null) (h : v.Portable) (hdepth : v.depth < 128) :
    ∃ text, Function.jsonEncode encode [v] = .ok (.string text) ∧
      ∃ d, decode text = some d ∧ Value.ofData d = v.plain := by
  obtain ⟨text, hwritten, htext⟩ := encode_text hencode v h (Nat.le_of_lt_succ hdepth)
  refine ⟨text, ?_, v.data, hdecode.reads htext, ofData_data v h⟩
  have hencoded : ((encode v).mapError FunctionError.failed).map Value.string = .ok (.string text) := by
    rw [hwritten]
    rfl
  cases v with
  | null => exact absurd rfl hnull
  | _ => exact hencoded

/-- A map inside a list has its keys out of order, a character and a null. -/
theorem json_round_trip_map :
    let v : Value := .list [.map [("b", .char 'x'), ("a", .null)], .int (-1), .string "\n"]
    Encoder.Lawful encode ∧ Decoder.Lawful decode ∧ v.Portable ∧ v.depth < 128 ∧
      ∃ text, Function.jsonEncode encode [v] = .ok (.string text) ∧
        ∃ d, decode text = some d ∧
          Value.ofData d = .list [.map [("a", .null), ("b", .string "x")], .int (-1), .string "\n"] := by
  intro v
  have hportable : v.Portable := by
    simp only [v, Value.portable_list, Value.portable_map, List.forall_mem_cons]
    refine ⟨⟨by decide, ?_, ?_, by simp⟩, ?_, ?_, by simp⟩
    all_goals
      refine ⟨fun x hx => ?_, fun entries he => ?_⟩
      · cases hx
      · cases he
  have hdepth : v.depth < 128 := by decide
  have ha : keyBytes "a" = [97] := by with_unfolding_all rfl
  have hb : keyBytes "b" = [98] := by with_unfolding_all rfl
  have hle : ¬ ([98] : List UInt8) ≤ [97] := by decide
  have hplain : v.plain = .list [.map [("a", .null), ("b", .string "x")], .int (-1), .string "\n"] := by
    simp [v, Value.plain, Value.plainItems, Value.plainEntries, sortByKeyBytes, List.mergeSort,
      List.MergeSort.Internal.splitInTwo, ha, hb, hle]
  have hnull : v ≠ .null := by
    show ¬ Value.list _ = .null
    intro h
    cases h
  have hread := json_round_trip encode_lawful decode_lawful v hnull hportable hdepth
  exact ⟨encode_lawful, decode_lawful, hportable, hdepth, hplain ▸ hread⟩

end Json

end TemplateEngine
