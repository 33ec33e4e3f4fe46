/-
  TemplateEngine.Proofs.Value.Equivalence — equality without doubles is an equivalence.

  Two things keep equality from being one: a NaN is not equal to itself, and a double may be
  equal to two whole numbers that are not equal to each other. Without doubles, equality is
  sameness of the values with strings for characters (`spelled`), and so it has the laws of
  sameness, where every value is compared with one of its own kind.

  Proved:
  - `same_refl`, `same_symm`, `same_trans`: sameness of values without doubles.
  - `equals_eq_same_spelled`: equality by sameness.
  - `equality_equivalence`: equality is an equivalence, and membership in a list and what
    stands at its edges do not tell equal values apart.
-/

import TemplateEngine.Operator.Apply
import TemplateEngine.Pattern.Parser
import TemplateEngine.Proofs.Value.Containers

namespace TemplateEngine

namespace Value

/-! ## Sameness -/

/-- How values without doubles are the same: as one value, or by what they hold. -/
inductive SameParts : Value → Value → Prop
  | self (v : Value) : SameParts v v
  | list {as bs : List Value} : List.Forall₂ (fun v w => v.same w = true) as bs → SameParts (list as) (list bs)
  | map {t u : Table Value} : t.keys.Nodup → u.keys.Nodup →
      Table.Matched (fun v w => v.same w = true) t u → SameParts (map t) (map u)

theorem sameParts_of_same {v w : Value} (hv : v.Portable) (hw : w.Portable) (h : v.same w = true) :
    SameParts v w := by
  cases v with
  | float x => exact absurd hv (not_portable_float x)
  | list as =>
    cases w with
    | list bs => exact .list (same_list_iff.mp h)
    | _ => simp [same] at h
  | map t =>
    cases w with
    | map u =>
      have ht := (portable_map.mp hv).1
      have hu := (portable_map.mp hw).1
      exact .map ht hu ((same_map_iff ht hu).mp h)
    | _ => simp [same] at h
  | _ =>
    cases w <;> simp [same] at h
    all_goals
      subst_vars
      exact .self _

theorem same_refl {v : Value} (h : v.Portable) : v.same v = true := by
  induction v using value_induction with
  | step v ih =>
    cases v with
    | float x => exact absurd h (not_portable_float x)
    | list items =>
      rw [same_list_iff, List.forall₂_same]
      exact fun v hv => ih v hv (portable_list.mp h v hv)
    | map entries =>
      obtain ⟨hkeys, hvalues⟩ := portable_map.mp h
      rw [same_map_iff hkeys hkeys]
      refine ⟨fun _ => Iff.rfl, fun {key v w} hv hw => ?_⟩
      obtain rfl : v = w := Option.some.inj (hv.symm.trans hw)
      have he := Table.mem_of_get? hv
      exact ih v (List.mem_map.mpr ⟨_, he, rfl⟩) (hvalues _ he)
    | _ => simp [same]

theorem same_symm {v w : Value} (hv : v.Portable) (hw : w.Portable) (h : v.same w = true) :
    w.same v = true := by
  induction v using value_induction generalizing w with
  | step v ih =>
    cases sameParts_of_same hv hw h with
    | self => exact h
    | @list as bs hitems =>
      obtain ⟨hlength, hitems⟩ := List.forall₂_iff_get.mp hitems
      rw [same_list_iff, List.forall₂_iff_get]
      refine ⟨hlength.symm, fun i hi hi' => ?_⟩
      have ha := List.get_mem as ⟨i, hi'⟩
      have hb := List.get_mem bs ⟨i, hi⟩
      exact ih _ ha (portable_list.mp hv _ ha) (portable_list.mp hw _ hb) (hitems i hi' hi)
    | @map t u ht hu hentries =>
      rw [same_map_iff hu ht]
      refine ⟨fun key => (hentries.keys key).symm, fun hb ha => ?_⟩
      have he := Table.mem_of_get? ha
      exact ih _ (List.mem_map.mpr ⟨_, he, rfl⟩) ((portable_map.mp hv).2 _ he)
        ((portable_map.mp hw).2 _ (Table.mem_of_get? hb)) (hentries.values ha hb)

theorem same_trans {v w x : Value} (hv : v.Portable) (hw : w.Portable) (hx : x.Portable)
    (hvw : v.same w = true) (hwx : w.same x = true) : v.same x = true := by
  induction v using value_induction generalizing w x with
  | step v ih =>
    cases sameParts_of_same hv hw hvw with
    | self => exact hwx
    | @list as bs hab =>
      cases sameParts_of_same hw hx hwx with
      | self => exact hvw
      | @list _ cs hbc =>
        obtain ⟨hlength, hab⟩ := List.forall₂_iff_get.mp hab
        obtain ⟨hlength', hbc⟩ := List.forall₂_iff_get.mp hbc
        rw [same_list_iff, List.forall₂_iff_get]
        refine ⟨hlength.trans hlength', fun i hi hi' => ?_⟩
        have hmiddle : i < bs.length := hlength ▸ hi
        have ha := List.get_mem as ⟨i, hi⟩
        have hb := List.get_mem bs ⟨i, hmiddle⟩
        have hc := List.get_mem cs ⟨i, hi'⟩
        exact ih _ ha (portable_list.mp hv _ ha) (portable_list.mp hw _ hb) (portable_list.mp hx _ hc)
          (hab i hi hmiddle) (hbc i hmiddle hi')
    | @map t u ht hu htu =>
      cases sameParts_of_same hw hx hwx with
      | self => exact hvw
      | @map _ s _ hs hus =>
        rw [same_map_iff ht hs]
        refine ⟨fun key => (htu.keys key).trans (hus.keys key), fun {key a c} ha hc => ?_⟩
        have hkey : key ∈ u.keys := (htu.keys key).mp (Table.mem_keys_iff.mpr ⟨a, ha⟩)
        obtain ⟨b, hb⟩ := Table.mem_keys_iff.mp hkey
        have he := Table.mem_of_get? ha
        exact ih a (List.mem_map.mpr ⟨_, he, rfl⟩) ((portable_map.mp hv).2 _ he)
          ((portable_map.mp hw).2 _ (Table.mem_of_get? hb)) ((portable_map.mp hx).2 _ (Table.mem_of_get? hc))
          (htu.values ha hb) (hus.values hb hc)

/-! ## Equality by sameness -/

mutual

/-- The value with strings for characters, but for those inside maps. -/
def spelled : Value → Value
  | char c => string c.toString
  | list items => list (spelledItems items)
  | other => other

def spelledItems : List Value → List Value
  | [] => []
  | v :: rest => spelled v :: spelledItems rest

end

theorem spelledItems_eq_map (items : List Value) : spelledItems items = items.map spelled := by
  induction items with
  | nil => rfl
  | cons v rest ih => rw [spelledItems, ih, List.map_cons]

theorem portable_string (s : String) : Portable (.string s) := ⟨nofun, nofun⟩

theorem portable_spelled {v : Value} (h : v.Portable) : v.spelled.Portable := by
  induction v using value_induction with
  | step v ih =>
    cases v with
    | char c => exact portable_string _
    | list items =>
      rw [spelled, spelledItems_eq_map, portable_list]
      intro w hw
      obtain ⟨v, hv, rfl⟩ := List.mem_map.mp hw
      exact ih v hv (portable_list.mp h v hv)
    | _ => exact h

/-- Without doubles equality has only characters to look through. -/
theorem equals_eq_same_spelled {v w : Value} (hv : v.Portable) (hw : w.Portable) :
    v.equals w = v.spelled.same w.spelled := by
  induction v using value_induction generalizing w with
  | step v ih =>
    cases v with
    | float x => exact absurd hv (not_portable_float x)
    | list as =>
      cases w with
      | list bs =>
        rw [Bool.eq_iff_iff, equals_list_iff, spelled, spelled, same_list_iff, spelledItems_eq_map,
          spelledItems_eq_map, List.forall₂_map_left_iff, List.forall₂_map_right_iff,
          List.forall₂_iff_get, List.forall₂_iff_get]
        refine and_congr_right fun _ => forall_congr' fun i => forall_congr' fun hi => forall_congr' fun hi' => ?_
        have ha := List.get_mem as ⟨i, hi⟩
        have hb := List.get_mem bs ⟨i, hi'⟩
        rw [ih _ ha (portable_list.mp hv _ ha) (portable_list.mp hw _ hb)]
      | _ => simp [equals, spelled, same]
    | _ =>
      cases w with
      | float x => exact absurd hw (not_portable_float x)
      | _ => simp [equals, spelled, same, isJust_eq, Bool.beq_comm]

/-! ## Equality -/

theorem equals_refl {v : Value} (h : v.Portable) : v.equals v = true := by
  rw [equals_eq_same_spelled h h]
  exact same_refl (portable_spelled h)

theorem equals_symm {v w : Value} (hv : v.Portable) (hw : w.Portable) (h : v.equals w = true) :
    w.equals v = true := by
  rw [equals_eq_same_spelled hv hw] at h
  rw [equals_eq_same_spelled hw hv]
  exact same_symm (portable_spelled hv) (portable_spelled hw) h

theorem equals_trans {v w x : Value} (hv : v.Portable) (hw : w.Portable) (hx : x.Portable)
    (hvw : v.equals w = true) (hwx : w.equals x = true) : v.equals x = true := by
  rw [equals_eq_same_spelled hv hw] at hvw
  rw [equals_eq_same_spelled hw hx] at hwx
  rw [equals_eq_same_spelled hv hx]
  exact same_trans (portable_spelled hv) (portable_spelled hw) (portable_spelled hx) hvw hwx

theorem equals_congr {v w w' : Value} (hv : v.Portable) (hw : w.Portable) (hw' : w'.Portable)
    (h : w.equals w' = true) : v.equals w = v.equals w' := by
  rw [Bool.eq_iff_iff]
  exact ⟨fun hvw => equals_trans hv hw hw' hvw h, fun hvw => equals_trans hv hw' hw hvw (equals_symm hw hw' h)⟩

end Value

namespace Operator

open Value

variable {items : List Value} {v w : Value}

theorem member_congr {patterns : Patterns} (hitems : (list items).Portable) (hv : v.Portable) (hw : w.Portable)
    (h : v.equals w = true) : isIn.apply patterns v (.list items) = isIn.apply patterns w (.list items) := by
  have hany : items.any (·.equals v) = items.any (·.equals w) := by
    rw [Bool.eq_iff_iff, List.any_eq_true, List.any_eq_true]
    refine exists_congr fun item => and_congr_right fun hitem => ?_
    rw [equals_congr (portable_list.mp hitems item hitem) hv hw h]
  show member v (.list items) = member w (.list items)
  rw [member, member, hany]

theorem atEdge_congr (op : Operator) {edge : List Value → Option Value} (affix : List Char → List Char → Bool)
    (hedge : ∀ item, edge items = some item → item ∈ items) (hitems : (list items).Portable)
    (hv : v.Portable) (hw : w.Portable) (h : v.equals w = true) :
    atEdge op edge affix (.list items) v = atEdge op edge affix (.list items) w := by
  rw [atEdge, atEdge]
  cases hitem : edge items with
  | none => rfl
  | some item =>
    have hequal := equals_congr (portable_list.mp hitems item (hedge item hitem)) hv hw h
    simp [hequal]

/-- Among values without doubles equality is an equivalence, and equal values are in the same
    lists and at the same edges of lists. -/
theorem equality_equivalence (patterns : Patterns) {x y z : Value} (hx : x.Portable) (hy : y.Portable)
    (hz : z.Portable) (hitems : (list items).Portable) :
    x.equals x = true ∧
    (x.equals y = true → y.equals x = true) ∧
    (x.equals y = true → y.equals z = true → x.equals z = true) ∧
    (x.equals y = true →
      isIn.apply patterns x (.list items) = isIn.apply patterns y (.list items) ∧
      startsWith.apply patterns (.list items) x = startsWith.apply patterns (.list items) y ∧
      endsWith.apply patterns (.list items) x = endsWith.apply patterns (.list items) y) := by
  refine ⟨equals_refl hx, equals_symm hx hy, equals_trans hx hy hz, fun h => ⟨?_, ?_, ?_⟩⟩
  · exact member_congr hitems hx hy h
  · exact atEdge_congr startsWith List.isPrefixOf (fun _ => List.mem_of_head?) hitems hx hy h
  · exact atEdge_congr endsWith List.isSuffixOf (fun _ => List.mem_of_getLast?) hitems hx hy h

/-- The first two values differ in a character that may be a string, the last two in the
    order of entries. -/
theorem equality_equivalence_nested :
    let x : Value := .list [.char 'x', .map [("a", .char 'x'), ("b", .int 1)]]
    let y : Value := .list [.string "x", .map [("a", .char 'x'), ("b", .int 1)]]
    let z : Value := .list [.string "x", .map [("b", .int 1), ("a", .char 'x')]]
    (x.Portable ∧ y.Portable ∧ z.Portable ∧ (list [.null, z]).Portable) ∧
      (x.equals y = true ∧ y.equals z = true) ∧ y.equals x = true ∧ x.equals z = true ∧
      isIn.apply Pattern.compile x (.list [.null, z]) = isIn.apply Pattern.compile y (.list [.null, z]) := by
  intro x y z
  have hx : x.Portable := by
    simp only [x, portable_list, portable_map, List.forall_mem_cons]
    exact ⟨⟨nofun, nofun⟩, ⟨by decide, ⟨nofun, nofun⟩, ⟨nofun, nofun⟩, nofun⟩, nofun⟩
  have hy : y.Portable := by
    simp only [y, portable_list, portable_map, List.forall_mem_cons]
    exact ⟨⟨nofun, nofun⟩, ⟨by decide, ⟨nofun, nofun⟩, ⟨nofun, nofun⟩, nofun⟩, nofun⟩
  have hz : z.Portable := by
    simp only [z, portable_list, portable_map, List.forall_mem_cons]
    exact ⟨⟨nofun, nofun⟩, ⟨by decide, ⟨nofun, nofun⟩, ⟨nofun, nofun⟩, nofun⟩, nofun⟩
  have hitems : (list [.null, z]).Portable := by
    simp only [portable_list, List.forall_mem_cons]
    exact ⟨⟨nofun, nofun⟩, hz, nofun⟩
  have hxy : x.equals y = true := by decide
  have hyz : y.equals z = true := by decide
  obtain ⟨-, hsymm, htrans, hcongr⟩ := equality_equivalence Pattern.compile hx hy hz hitems
  exact ⟨⟨hx, hy, hz, hitems⟩, ⟨hxy, hyz⟩, hsymm hxy, htrans hxy hyz, (hcongr hxy).1⟩

end Operator

end TemplateEngine
