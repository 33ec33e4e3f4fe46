/-
  TemplateEngine.Proofs.Operator.Membership — edges and members of lists and texts.

  A list has an item at an edge if the item there is equal to it. A text has a value at an
  edge if the value's text stands there, and holds it if that text stands anywhere. So what
  is at an edge is a member, of a list as of a text. The sum of two lists, or of two values
  as texts, has at its edges what the two have there, and their members.

  Proved:
  - `isIn_list_iff`, `isIn_text_iff`: the members of a list and of a text.
  - `edge_isIn`: what is at an edge of a list or a text is a member of it.
  - `edges_and_members_agree`: edges, members and sums.
-/

import TemplateEngine.Proofs.Operator.Comparison

namespace TemplateEngine

theorem Text.contains_iff_isInfix {needle text : List Char} :
    Text.contains needle text = true ↔ needle <:+: text := by
  induction text with
  | nil => simp [contains]
  | cons c text ih =>
    have hprefix : (after? needle (c :: text)).isSome = true ↔ needle <+: c :: text := by
      simp only [Option.isSome_iff_exists, after?_eq_some_iff]
      exact exists_congr fun rest => eq_comm
    rw [contains, Bool.or_eq_true, ih, hprefix, List.infix_cons_iff]

namespace Operator

variable {patterns : Patterns} {a b x : Value} {items : List Value}

/-! ## Members -/

theorem isIn_list_iff : isIn.Holds patterns x (.list items) ↔ ∃ item ∈ items, item.equals x = true := by
  simp [Holds, apply, member]

theorem isIn_text_iff (hb : b.isText = true) : isIn.Holds patterns a b ↔ a.text.toList <:+: b.text.toList := by
  rw [← Text.contains_iff_isInfix]
  cases b with
  | char c => simp [Holds, apply, member, Value.isText]
  | string s => simp [Holds, apply, member, Value.isText]
  | _ => cases hb

/-! ## Edges -/

theorem apply_startsWith : startsWith.apply patterns a b = atEdge startsWith List.head? List.isPrefixOf a b := rfl

theorem apply_endsWith : endsWith.apply patterns a b = atEdge endsWith List.getLast? List.isSuffixOf a b := rfl

section

variable (op : Operator) (edge : List Value → Option Value) (affix : List Char → List Char → Bool)

theorem atEdge_list : atEdge op edge affix (.list items) x = .ok (.bool ((edge items).any (·.equals x))) := rfl

theorem atEdge_text (ha : a.isText = true) :
    atEdge op edge affix a b = .ok (.bool (affix b.text.toList a.text.toList)) := by
  cases a with
  | char c => simp [atEdge, Value.isText]
  | string s => simp [atEdge, Value.isText]
  | _ => cases ha

/-- Whether something is at an edge of a list or a text has an answer, and if it is there it is
    a member. -/
theorem edge_isIn (hedge : ∀ items item, edge items = some item → item ∈ items)
    (haffix : ∀ s t, affix s t = true → s <:+: t) (ha : (∃ items, a = .list items) ∨ a.isText = true) :
    ∃ answer, atEdge op edge affix a b = .ok (.bool answer) ∧ (answer = true → isIn.Holds patterns b a) := by
  rcases ha with ⟨items, rfl⟩ | ha
  · refine ⟨_, atEdge_list op edge affix, fun h => ?_⟩
    obtain ⟨item, hitem, hequal⟩ := (Option.any_eq_true _ _).mp h
    exact isIn_list_iff.mpr ⟨item, hedge items item hitem, hequal⟩
  · exact ⟨_, atEdge_text op edge affix ha, fun h => (isIn_text_iff ha).mpr (haffix _ _ h)⟩

end

theorem isInfix_of_isPrefixOf (s t : List Char) (h : s.isPrefixOf t = true) : s <:+: t :=
  (List.isPrefixOf_iff_prefix.mp h).isInfix

theorem isInfix_of_isSuffixOf (s t : List Char) (h : s.isSuffixOf t = true) : s <:+: t :=
  (List.isSuffixOf_iff_suffix.mp h).isInfix

/-! ## Sums -/

theorem add_texts (h : a.isText = true ∨ b.isText = true) :
    add.apply patterns a b = .ok (.string (a.text ++ b.text)) := by
  show plus a b = _
  unfold plus
  exact if_pos ((Bool.or_eq_true _ _).mpr h)

/-- A list or a text always answers what is at its edges, and what is there is a member of it.
    The sum of two lists has the members of both, and the edges of the one that is first or last
    and not empty. The sum with a text is a text that starts with the one value, ends with the
    other and holds both. -/
theorem edges_and_members_agree (patterns : Patterns) :
    (∀ a b : Value, ((∃ items, a = .list items) ∨ a.isText = true) → ∀ op ∈ [startsWith, endsWith],
      ∃ answer, op.apply patterns a b = .ok (.bool answer) ∧ (answer = true → isIn.Holds patterns b a)) ∧
    (∀ as bs : List Value, ∃ sum, add.apply patterns (.list as) (.list bs) = .ok sum ∧ ∀ x,
      (isIn.Holds patterns x sum ↔ isIn.Holds patterns x (.list as) ∨ isIn.Holds patterns x (.list bs)) ∧
      startsWith.apply patterns sum x = startsWith.apply patterns (.list (if as = [] then bs else as)) x ∧
      endsWith.apply patterns sum x = endsWith.apply patterns (.list (if bs = [] then as else bs)) x) ∧
    (∀ a b : Value, a.isText = true ∨ b.isText = true → ∃ s : String, add.apply patterns a b = .ok (.string s) ∧
      startsWith.Holds patterns (.string s) a ∧ endsWith.Holds patterns (.string s) b ∧
      isIn.Holds patterns a (.string s) ∧ isIn.Holds patterns b (.string s)) := by
  refine ⟨fun a b ha op hop => ?_, fun as bs => ⟨.list (as ++ bs), rfl, fun x => ⟨?_, ?_, ?_⟩⟩,
    fun a b h => ⟨a.text ++ b.text, add_texts h, ?_, ?_, ?_, ?_⟩⟩
  · simp only [List.mem_cons, List.not_mem_nil, or_false] at hop
    rcases hop with rfl | rfl
    · exact edge_isIn startsWith List.head? _ (fun _ _ => List.mem_of_head?) isInfix_of_isPrefixOf ha
    · exact edge_isIn endsWith List.getLast? _ (fun _ _ => List.mem_of_getLast?) isInfix_of_isSuffixOf ha
  · simp only [isIn_list_iff, List.mem_append, or_and_right, exists_or]
  · have hhead : (as ++ bs).head? = (if as = [] then bs else as).head? := by
      cases as <;> simp
    rw [apply_startsWith, apply_startsWith, atEdge_list, atEdge_list, hhead]
  · have hlast : (as ++ bs).getLast? = (if bs = [] then as else bs).getLast? := by
      by_cases hbs : bs = []
      · simp [hbs]
      · rw [if_neg hbs, List.getLast?_append_of_ne_nil as hbs]
    rw [apply_endsWith, apply_endsWith, atEdge_list, atEdge_list, hlast]
  · rw [Holds, apply_startsWith, atEdge_text _ _ _ rfl]
    simp [Value.text]
  · rw [Holds, apply_endsWith, atEdge_text _ _ _ rfl]
    simp [Value.text]
  · rw [isIn_text_iff rfl, Value.text, String.toList_append]
    exact (List.prefix_append _ _).isInfix
  · rw [isIn_text_iff rfl, Value.text, String.toList_append]
    exact (List.suffix_append _ _).isInfix

/-- A string is at the start of a list that starts with a character, and a number at the start
    of its sum with one. -/
theorem edges_and_members_agree_mixed :
    let items : Value := .list [.char 'x', .int 1]
    (startsWith.Holds Pattern.compile items (.string "x") ∧ isIn.Holds Pattern.compile (.string "x") items) ∧
    ((Value.int 12).isText = true ∨ (Value.char 'é').isText = true) ∧
    ∃ s : String, add.apply Pattern.compile (.int 12) (.char 'é') = .ok (.string s) ∧
      startsWith.Holds Pattern.compile (.string s) (.int 12) ∧
      endsWith.Holds Pattern.compile (.string s) (.char 'é') ∧
      isIn.Holds Pattern.compile (.int 12) (.string s) := by
  intro items
  obtain ⟨hmember, -, hsum⟩ := edges_and_members_agree Pattern.compile
  have hstart : startsWith.Holds Pattern.compile items (.string "x") := by rfl
  obtain ⟨answer, hanswer, hisIn⟩ := hmember items (.string "x") (.inl ⟨_, rfl⟩) startsWith (by decide)
  obtain rfl : answer = true := by simpa using hanswer.symm.trans hstart
  have htext : (Value.int 12).isText = true ∨ (Value.char 'é').isText = true := .inr rfl
  obtain ⟨s, hs, hstarts, hends, hleft, -⟩ := hsum (.int 12) (.char 'é') htext
  exact ⟨⟨hstart, hisIn rfl⟩, htext, s, hs, hstarts, hends, hleft⟩

end Operator

end TemplateEngine
