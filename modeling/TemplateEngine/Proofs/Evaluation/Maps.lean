/-
  TemplateEngine.Proofs.Evaluation.Maps — maps, made and read.

  A map expression computes its entries from the left and keeps what it computed last under
  a key, in the place where the key first came in. What stands under a key can be read in
  many ways: by membership, in the list of keys, as a property, by an index, and in a loop
  with a variable for the key and one for the value. All of them find the same.

  Proved:
  - `evaluateEntries_of_success`, `evaluateEntries_of_failure`: the entries of a map are all
    computed, or the first failure is that of the whole.
  - `evaluate_map`: the map that is made, by its keys and what stands under them.
  - `isIn_map_iff`, `isIn_keys_iff`, `property_eq_ok_iff`, `exists_entry_iff`,
    `round_binds_iff`: each way to read a map, by what stands in it.
  - `map_reads_agree`: all of it together.
-/

import Mathlib.Data.List.Forall2
import TemplateEngine.Proofs.Except
import TemplateEngine.Proofs.Operator.Comparison
import TemplateEngine.Proofs.Rendering.Iterations
import TemplateEngine.Proofs.Table

namespace TemplateEngine

open Operator (isIn)

/-! ## Tables that go together entry by entry -/

namespace Table

variable {α β : Type} {R : α → β → Prop} {t : Table α} {u : Table β}

theorem keys_of_forall₂ (h : List.Forall₂ (fun e x => x.1 = e.1 ∧ R e.2 x.2) t u) : u.keys = t.keys := by
  induction h with
  | nil => rfl
  | cons hfirst _ ih => exact congrArg₂ List.cons hfirst.1 ih

/-- Where one thing goes with at most one other, what stands under a key is what goes with
    what stands there in the other table. -/
theorem get?_of_forall₂ (hR : ∀ {e x y}, R e x → R e y → x = y)
    (h : List.Forall₂ (fun e x => x.1 = e.1 ∧ R e.2 x.2) t u) (key : String) (value : β) :
    u.get? key = some value ↔ ∃ e, t.get? key = some e ∧ R e value := by
  induction h with
  | nil => simp [get?]
  | @cons e x t u hfirst _ ih =>
    rw [get?, get?, hfirst.1]
    split
    · constructor
      · rintro ⟨⟩
        exact ⟨e.2, rfl, hfirst.2⟩
      · rintro ⟨_, ⟨⟩, hvalue⟩
        rw [hR hfirst.2 hvalue]
    · exact ih

end Table

/-! ## Making a map -/

namespace Environment

variable (env : Environment) (scope : Scope)

theorem evaluateEntries_of_success {entries : List (String × Expr)}
    (h : ∀ e ∈ entries, ∃ v, env.evaluate scope e.2 = .ok v) :
    ∃ values : Table Value, env.evaluateEntries scope entries = .ok values ∧
      List.Forall₂ (fun e x => x.1 = e.1 ∧ env.evaluate scope e.2 = .ok x.2) entries values := by
  induction entries with
  | nil => exact ⟨[], by rw [evaluateEntries], .nil⟩
  | cons e rest ih =>
    obtain ⟨v, hv⟩ := h e (List.mem_cons_self ..)
    obtain ⟨values, hvalues, hrest⟩ := ih fun e he => h e (List.mem_cons_of_mem _ he)
    refine ⟨(e.1, v) :: values, ?_, .cons ⟨rfl, hv⟩ hrest⟩
    rw [evaluateEntries, hv, Except.ok_bind, hvalues]
    rfl

theorem evaluateEntries_of_failure {entries : List (String × Expr)}
    (h : ∃ e ∈ entries, ∃ cause, env.evaluate scope e.2 = .error cause) :
    ∃ earlier e later cause, entries = earlier ++ e :: later ∧
      (∀ e' ∈ earlier, ∃ v, env.evaluate scope e'.2 = .ok v) ∧ env.evaluate scope e.2 = .error cause ∧
      env.evaluateEntries scope entries = .error cause := by
  induction entries with
  | nil => simp at h
  | cons e rest ih =>
    cases hv : env.evaluate scope e.2 with
    | error cause =>
      refine ⟨[], e, rest, cause, rfl, List.forall_mem_nil _, hv, ?_⟩
      rw [evaluateEntries, hv]
      rfl
    | ok v =>
      have hlater : ∃ e ∈ rest, ∃ cause, env.evaluate scope e.2 = .error cause := by
        obtain ⟨failing, hmem, cause, hfails⟩ := h
        rcases List.mem_cons.mp hmem with rfl | hmem
        · rw [hv] at hfails
          cases hfails
        · exact ⟨failing, hmem, cause, hfails⟩
      obtain ⟨earlier, failing, later, cause, rfl, hearlier, hfails, herror⟩ := ih hlater
      refine ⟨e :: earlier, failing, later, cause, rfl, List.forall_mem_cons.mpr ⟨⟨v, hv⟩, hearlier⟩, hfails, ?_⟩
      rw [evaluateEntries, hv, Except.ok_bind, herror]
      rfl

/-- A map expression whose entries all have a value makes a map with each of the keys once,
    where it came first, and under it the value of its last entry. -/
theorem evaluate_map {entries : List (String × Expr)} (h : ∀ e ∈ entries, ∃ v, env.evaluate scope e.2 = .ok v) :
    ∃ M : Table Value, env.evaluate scope (.map entries) = .ok (.map M) ∧
      M.keys.Nodup ∧ M.keys = (Table.keys entries).eraseDups ∧
      ∀ key v, M.get? key = some v ↔ ∃ earlier e later, entries = earlier ++ (key, e) :: later ∧
        key ∉ Table.keys later ∧ env.evaluate scope e = .ok v := by
  obtain ⟨values, hvalues, hcomputed⟩ := env.evaluateEntries_of_success scope h
  refine ⟨Table.ofEntries values, ?_, Table.nodup_keys_ofEntries values, ?_, fun key v => ?_⟩
  · rw [evaluate, hvalues]
    rfl
  · rw [Table.keys_ofEntries, Table.keys_of_forall₂ (R := fun e x => env.evaluate scope e = .ok x) hcomputed]
  · have hone {e : Expr} {x y : Value} (hx : env.evaluate scope e = .ok x) (hy : env.evaluate scope e = .ok y) :
        x = y := Except.ok.inj (hx.symm.trans hy)
    rw [Table.get?_ofEntries,
      Table.get?_of_forall₂ (R := fun e x => env.evaluate scope e = .ok x) hone
        (List.forall₂_reverse_iff.mpr hcomputed)]
    constructor
    · rintro ⟨e, he, hv⟩
      obtain ⟨earlier, later, hentries, hkey⟩ := Table.get?_reverse_eq_some_iff.mp he
      exact ⟨earlier, e, later, hentries, hkey, hv⟩
    · rintro ⟨earlier, e, later, hentries, hkey, hv⟩
      exact ⟨e, Table.get?_reverse_eq_some_iff.mpr ⟨earlier, later, hentries, hkey⟩, hv⟩

end Environment

/-! ## Reading a map -/

section

variable {M : Table Value} {k : Value}

theorem isIn_map_iff {patterns : Operator.Patterns} : isIn.Holds patterns k (.map M) ↔ k.text ∈ M.keys := by
  show Except.ok (Value.bool (Table.hasKey M k.text)) = .ok (.bool true) ↔ _
  rw [Table.mem_keys_iff, ← Option.isSome_iff_exists]
  simp [Table.hasKey]

theorem isIn_keys_iff {patterns : Operator.Patterns} (hk : k.isText = true) :
    isIn.Holds patterns k (.list (M.keys.map .string)) ↔ k.text ∈ M.keys := by
  have hany : (M.keys.map Value.string).any (·.equals k) = true ↔ k.text ∈ M.keys := by
    have hequals (key : String) : (Value.string key).equals k = (key == k.text) := Value.equals_texts rfl hk
    simp [hequals]
  show Except.ok (Value.bool ((M.keys.map Value.string).any (·.equals k))) = .ok (.bool true) ↔ _
  rw [← hany]
  simp

theorem property_eq_ok_iff {name : String} {v : Value} :
    (Value.map M).property name = .ok v ↔ M.get? name = some v := by
  rw [Value.property]
  split
  · rename_i found hfound
    rw [hfound]
    simp
  · rename_i hnone
    rw [hnone]
    simp

theorem entryAt_of_get? {key : String} {v : Value} (h : M.get? key = some v) :
    (Value.map M).entryAt key = .ok v := by
  rw [Value.entryAt, h]
  rfl

/-- A loop comes to what stands under a key, and to nothing else with that key. -/
theorem exists_entry_iff (hM : M.keys.Nodup) {key : String} {v : Value} :
    (∃ i, (Value.map M).Entry i (.string key) v) ↔ M.get? key = some v := by
  rw [Table.get?_eq_some_iff hM, List.mem_iff_getElem?]
  refine exists_congr fun i => ⟨?_, .entry⟩
  intro h
  cases h with
  | entry h => exact h

end

/-! ## A loop with two variables -/

theorem Value.Entry.unique {v key key' value value' : Value} {i : Nat} (h : v.Entry i key value)
    (h' : v.Entry i key' value') : key = key' ∧ value = value' := by
  have hmember := (v.getElem?_members i key value).mpr h
  rw [(v.getElem?_members i key' value').mpr h'] at hmember
  exact (Prod.mk.inj (Option.some.inj hmember)).imp Eq.symm Eq.symm

theorem Target.frame_of_entry (target : Target) {v key value : Value} {i : Nat} (h : v.Entry i key value) :
    ∃ frame, (target.frames v)[i]? = some frame ∧ target.Binds i (target.frames v).length key value frame := by
  obtain ⟨hframes, hlength⟩ := target.frames_of_entries v
  have hframe := List.getElem?_eq_getElem (hlength i key value h)
  obtain ⟨key', value', hentry, hbinds⟩ := hframes i _ hframe
  obtain ⟨rfl, rfl⟩ := h.unique hentry
  exact ⟨_, hframe, hbinds⟩

theorem Scope.lookup_inside {scope : Scope} {frame : Frame} {name : String} {v : Value}
    (h : Table.get? name frame = some v) : (scope.inside frame).lookup name = some v := by
  simp [lookup, frames, inside, h]

/-- Names that are apart, and are not that of the loop's state, mean the key and the value. -/
theorem Target.lookup_pair {keyName valueName : String} (hapart : [keyName, valueName, "loop"].Nodup)
    {i length : Nat} {key value : Value} {frame : Frame} (scope : Scope)
    (h : (Target.pair keyName valueName).Binds i length key value frame) :
    (scope.inside frame).lookup keyName = some key ∧ (scope.inside frame).lookup valueName = some value := by
  obtain ⟨⟨hvalue, hkeyLoop⟩, hvalueLoop⟩ : (keyName ≠ valueName ∧ keyName ≠ "loop") ∧ valueName ≠ "loop" := by
    simpa using hapart
  constructor
  · refine Scope.lookup_inside ?_
    rw [h keyName, if_neg hkeyLoop, binding, if_neg hvalue, if_pos rfl]
  · refine Scope.lookup_inside ?_
    rw [h valueName, if_neg hvalueLoop, binding, if_pos rfl]

section

variable {M : Table Value} (hM : M.keys.Nodup) {key : String} {v : Value}
include hM

theorem frame_binds_iff (target : Target) :
    (∃ i frame, (target.frames (.map M))[i]? = some frame ∧ (Value.map M).Entry i (.string key) v ∧
      target.Binds i (target.frames (.map M)).length (.string key) v frame) ↔ M.get? key = some v := by
  rw [← exists_entry_iff hM]
  constructor
  · rintro ⟨i, _, _, hentry, _⟩
    exact ⟨i, hentry⟩
  · rintro ⟨i, hentry⟩
    obtain ⟨frame, hframe, hbinds⟩ := target.frame_of_entry hentry
    exact ⟨i, frame, hframe, hentry, hbinds⟩

theorem round_binds_iff {keyName valueName : String} (hapart : [keyName, valueName, "loop"].Nodup) (scope : Scope) :
    (∃ round ∈ ((Target.pair keyName valueName).frames (.map M)).map scope.inside,
      round.lookup keyName = some (.string key) ∧ round.lookup valueName = some v) ↔ M.get? key = some v := by
  constructor
  · rintro ⟨_, hround, hkey, hvalue⟩
    obtain ⟨frame, hframe, rfl⟩ := List.mem_map.mp hround
    obtain ⟨i, hframe⟩ := List.mem_iff_getElem?.mp hframe
    obtain ⟨key', value', hentry, hbinds⟩ := (Target.frames_of_entries _ _).1 i frame hframe
    obtain ⟨hkey', hvalue'⟩ := Target.lookup_pair hapart scope hbinds
    cases hkey.symm.trans hkey'
    cases hvalue.symm.trans hvalue'
    exact (exists_entry_iff hM).mp ⟨i, hentry⟩
  · intro h
    obtain ⟨i, frame, hframe, -, hbinds⟩ := (frame_binds_iff hM (.pair keyName valueName)).mpr h
    exact ⟨_, List.mem_map_of_mem (List.mem_of_getElem? hframe), Target.lookup_pair hapart scope hbinds⟩

end

/-! ## All ways together -/

namespace Environment

variable (env : Environment) (scope : Scope)

theorem evaluate_select_step {base : Expr} {outer : Value} (hbase : env.evaluate scope base = .ok outer)
    (step : Expr) : env.evaluate scope (.select base [step]) = env.followStep scope outer step := by
  rw [evaluate, hbase, Except.ok_bind, follow]
  cases env.followStep scope outer step with
  | error => rfl
  | ok v => rw [Except.ok_bind, follow]

/-- A map expression makes a map of what it has computed last under each of its keys, unless
    an entry fails; then it fails as the first one that does. Whether a map has a key is
    the same as whether the list of its keys has it, and as whether it has that property. The
    property is what an index gives, of a variable or of a property, and what a loop goes
    over together with that key, in as many rounds as the map is long. -/
theorem map_reads_agree :
    (∀ entries : List (String × Expr), (∀ e ∈ entries, ∃ v, env.evaluate scope e.2 = .ok v) →
      ∃ M : Table Value, env.evaluate scope (.map entries) = .ok (.map M) ∧
        M.keys.Nodup ∧ M.keys = (Table.keys entries).eraseDups ∧
        ∀ key v, M.get? key = some v ↔ ∃ earlier e later, entries = earlier ++ (key, e) :: later ∧
          key ∉ Table.keys later ∧ env.evaluate scope e = .ok v) ∧
    (∀ entries : List (String × Expr), (∃ e ∈ entries, ∃ cause, env.evaluate scope e.2 = .error cause) →
      ∃ earlier e later cause, entries = earlier ++ e :: later ∧
        (∀ e' ∈ earlier, ∃ v, env.evaluate scope e'.2 = .ok v) ∧ env.evaluate scope e.2 = .error cause ∧
        env.evaluate scope (.map entries) = .error cause) ∧
    ∀ (M : Table Value) (k : Value) (m : Expr), M.keys.Nodup → k.isText = true →
      env.evaluate scope m = .ok (.map M) →
        let map := Value.map M
        let selected := env.evaluate scope (.select m [.var k.text])
        (isIn.Holds env.patterns k map ↔ ∃ keys, Function.keys [map] = .ok keys ∧ isIn.Holds env.patterns k keys) ∧
        (isIn.Holds env.patterns k map ↔ ∃ v, selected = .ok v) ∧
        (∀ v, selected = .ok v →
          (∀ name, env.readVariable scope name = .ok map → env.evaluate scope (.entry name k.text) = .ok v) ∧
          ∀ base outer name, env.evaluate scope base = .ok outer → outer.property name = .ok map →
            env.evaluate scope (.select base [.entry name k.text]) = .ok v) ∧
        ∀ keyName valueName,
          let target := Target.pair keyName valueName
          let frames := target.frames map
          let rounds := frames.map scope.inside
          (∀ (position : Position) (collection : Expr) (filters : List Expr) (body : Content),
            (do env.passThrough scope (← env.evaluate scope collection) filters) = .ok map →
              ∀ (σ : Type) [Writer σ] (sink : σ), InTurn (env.renderContent body) rounds { scope, sink }
                (env.renderContent [.loop position target collection filters body] { scope, sink })) ∧
          Function.length [map] = .ok (.ofNat rounds.length) ∧
          (∀ v, selected = .ok v ↔ ∃ i frame, frames[i]? = some frame ∧ map.Entry i (.string k.text) v ∧
            target.Binds i frames.length (.string k.text) v frame) ∧
          ([keyName, valueName, "loop"].Nodup → ∀ v, selected = .ok v ↔ ∃ round ∈ rounds,
            round.lookup keyName = some (.string k.text) ∧ round.lookup valueName = some v) := by
  refine ⟨fun entries h => env.evaluate_map scope h, fun entries h => ?_, fun M k m hM hk hm => ?_⟩
  · obtain ⟨earlier, e, later, cause, hentries, hearlier, hfails, herror⟩ := env.evaluateEntries_of_failure scope h
    refine ⟨earlier, e, later, cause, hentries, hearlier, hfails, ?_⟩
    rw [evaluate, herror]
    rfl
  intro map selected
  have hselected (v : Value) : selected = .ok v ↔ M.get? k.text = some v := by
    rw [show selected = _ from env.evaluate_select_step scope hm (.var k.text), followStep]
    exact property_eq_ok_iff
  refine ⟨?_, ?_, fun v hv => ⟨fun name hname => ?_, fun base outer name hbase houter => ?_⟩, ?_⟩
  · rw [isIn_map_iff, ← isIn_keys_iff hk]
    refine ⟨fun h => ⟨_, rfl, h⟩, ?_⟩
    rintro ⟨_, hkeys, h⟩
    cases hkeys
    exact h
  · rw [isIn_map_iff, Table.mem_keys_iff]
    exact exists_congr fun v => (hselected v).symm
  · rw [evaluate, hname]
    exact entryAt_of_get? ((hselected v).mp hv)
  · rw [env.evaluate_select_step scope hbase, followStep, houter]
    exact entryAt_of_get? ((hselected v).mp hv)
  intro keyName valueName target frames rounds
  refine ⟨?_, ?_, fun v => ?_, fun hapart v => ?_⟩
  · intro position collection filters body hv σ _ sink
    exact env.renderContent_loop body { scope, sink } hv
  · have hlength : rounds.length = M.length :=
      (List.length_map ..).trans (List.length_mapIdx.trans (List.length_map ..))
    rw [hlength]
    rfl
  · exact (hselected v).trans (frame_binds_iff hM target).symm
  · exact (hselected v).trans (round_binds_iff hM hapart scope).symm

/-- A key that comes in twice, looked up by a character. -/
theorem map_reads_agree_repeated :
    let text (s : String) : Expr := .literal (.string s)
    let entries := [("k", text "a"), ("x", text "b"), ("k", text "c")]
    let failing := entries ++ [("k", .call "nothing" []), ("k", text "d")]
    let scope : Scope := { caller := [] }
    ∃ (env : Environment) (M : Table Value), env.evaluate scope (.map entries) = .ok (.map M) ∧
      M.keys = ["k", "x"] ∧ isIn.Holds env.patterns (.char 'k') (.map M) ∧
      env.evaluate scope (.select (.map entries) [.var "k"]) = .ok (.string "c") ∧
      (∃ round ∈ ((Target.pair "key" "value").frames (.map M)).map scope.inside,
        round.lookup "key" = some (.string "k") ∧ round.lookup "value" = some (.string "c")) ∧
      env.evaluate scope (.map failing) = .error (.unknownFunction "nothing") := by
  intro text entries failing scope
  let env : Environment := {}
  have htext (s : String) : env.evaluate scope (text s) = .ok (.string s) := by
    simp only [text, evaluate]
    rfl
  have hcall : env.evaluate scope (.call "nothing" []) = .error (.unknownFunction "nothing") := by
    simp only [evaluate, evaluateAll]
    rfl
  obtain ⟨hmakes, hfails, hreads⟩ := env.map_reads_agree scope
  have hentries : ∀ e ∈ entries, ∃ v, env.evaluate scope e.2 = .ok v := by
    intro e he
    simp only [entries, List.mem_cons, List.not_mem_nil, or_false] at he
    obtain rfl | rfl | rfl := he <;> exact ⟨_, htext _⟩
  obtain ⟨M, hM, hnodup, hkeys, hlast⟩ := hmakes entries hentries
  have hselected : env.evaluate scope (.select (.map entries) [.var "k"]) = .ok (.string "c") := by
    rw [env.evaluate_select_step scope hM, followStep, property_eq_ok_iff]
    exact (hlast "k" (.string "c")).mpr
      ⟨[("k", text "a"), ("x", text "b")], text "c", [], rfl, List.not_mem_nil, htext "c"⟩
  obtain ⟨-, hmember, -, hloop⟩ := hreads M (.char 'k') (.map entries) hnodup rfl hM
  obtain ⟨-, -, -, hround⟩ := hloop "key" "value"
  refine ⟨env, M, hM, hkeys, hmember.mpr ⟨_, hselected⟩, hselected, (hround (by decide) _).mp hselected, ?_⟩
  obtain ⟨earlier, e, later, cause, hsplit, -, hcause, herror⟩ :=
    hfails failing ⟨("k", .call "nothing" []), by simp [failing], _, hcall⟩
  have he : e ∈ failing := hsplit ▸ List.mem_append_cons_self
  simp only [failing, entries, List.mem_append, List.mem_cons, List.not_mem_nil, or_false] at he
  rcases he with (rfl | rfl | rfl) | rfl | rfl
  all_goals first
    | exact herror.trans (hcause.symm.trans hcall)
    | cases (htext _).symm.trans hcause

end Environment

end TemplateEngine
