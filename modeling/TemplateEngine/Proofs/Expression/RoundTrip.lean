/-
  TemplateEngine.Proofs.Expression.RoundTrip — every written expression is read as itself.

  The forms that are made of looser parts: selections, pipes, choices, negations, chains.
  Each is readable if its parts are, so every printable expression is
  (`readable_of_printable`), and `parse_print` is the case of a text that stands alone.
-/

import TemplateEngine.Proofs.Expression.Bases

namespace TemplateEngine.Expr

open Grammar Scan
open Operator (Level)

variable (extra : Place → Expr → Bool)

/-! ## Selections and pipes -/

theorem letter_of_step {expr : Rule Expr} {s : List Char} {e : Expr} {rest : List Char}
    (h : selectionStep expr s = .ok (some e, rest)) : ∃ c t, s = c :: t ∧ isLetter c = true := by
  have hname : ¬ Stops isLetter s := by
    intro hstops
    rw [selectionStep, identifier?_of_stops hstops] at h
    cases h
  cases s with
  | nil => exact absurd Stops.nil hname
  | cons c t =>
    cases hc : isLetter c with
    | true => exact ⟨c, t, rfl, hc⟩
    | false => exact absurd (Stops.cons hc) hname

/-- Each part behind a mark is shorter than the text they are part of, and so is their number. -/
theorem length_of_parts (mark : List Char) (hmark : mark ≠ []) (text : Expr → List Char)
    (es : List Expr) :
    es.length ≤ (es.flatMap (mark ++ text ·)).length ∧
      ∀ e ∈ es, (text e).length < (es.flatMap (mark ++ text ·)).length := by
  have hpos := List.length_pos_iff.mpr hmark
  refine ⟨length_le_length_flatMap es fun e => ?_, fun e he => ?_⟩
  · rw [List.length_append]; omega
  · have := length_le_flatMap (f := (mark ++ text ·)) he
    simp only [List.length_append] at this
    omega

/-- An expression is readable if it is a tighter one with a text behind it that extends it. -/
theorem Readable.of_behind {base e : Expr} (hbase : Readable base) (place : Place)
    (hbound : place.bound ≤ 11) (hlast : place.last = false) (hloose : e.looseness = place.bound + 1)
    (hstep : e.isStep = false) (hstage : e.isStage = false)
    (extend : Rule Expr → Expr → List Char → Except Fault (Expr × List Char))
    (hrule : ∀ expr tighter, loosen expr place.bound tighter = behind tighter (extend expr))
    (tail : (Place → Expr → Bool) → List Char)
    (htext : ∀ extra last, bare extra last e = written extra place base ++ tail extra)
    (hfollows : ∀ extra rest, Follows place.bound (tail extra ++ rest))
    (hextend : ∀ extra n rest, (tail extra).length ≤ n + 1 → Follows (place.bound + 1) rest →
      extend (expressionUpTo n) base (skipSpacing (tail extra ++ rest)) = .ok (e, skipSpacing rest)) :
    Readable e where
  begins := by
    intro extra last rest
    rw [htext, List.append_assoc]
    exact hbase.begins_written extra place _
  alone := by
    intro extra last n rest hn hrest _ _
    rw [htext, List.length_append] at hn
    rw [hloose] at hrest ⊢
    have hread := hbase.at_place extra place hbound (n := n) (by omega) (hfollows extra rest)
      (by simp [hlast])
    have htail := hextend extra n rest (by omega) hrest
    rw [htext, List.append_assoc, ruleUpTo_succ, hrule]
    simp only [behind, hread, htail, Except.ok_bind]
    rfl
  step := by simp [hstep]
  stage := by simp [hstage]

/-- A step starts with a letter, so the point before it is no range's. -/
theorem Readable.point_step {e : Expr} (h : Readable e) (hform : e.isStep = true) (more : List Char) :
    Follows 0 (['.'] ++ (bare extra true e ++ more)) ∧
      point? (skipSpacing (['.'] ++ (bare extra true e ++ more))) = some (bare extra true e ++ more) := by
  have hread := h.step hform extra _ [] (Nat.le_refl _) Stops.nil
  rw [List.append_nil] at hread
  obtain ⟨c, t, hc, hletter⟩ := letter_of_step hread
  have hfollows : Follows 0 (['.'] ++ (bare extra true e ++ more)) := by
    rw [hc]
    exact .point hletter _
  refine ⟨hfollows, ?_⟩
  rw [point?, hfollows.range, List.singleton_append, skipSpacing_of_unspaced (.cons _ rfl (by decide))]
  exact (h.begins extra true more).symbol?_append "."

theorem withSteps_written (base : Expr) {steps : List Expr} (hne : steps ≠ [])
    (hsteps : ∀ e ∈ steps, Readable e) (hform : ∀ e ∈ steps, e.isStep = true) {n : Nat} {rest : List Char}
    (hn : (steps.flatMap (['.'] ++ bare extra true ·)).length ≤ n + 1) (hrest : Follows 1 rest) :
    withSteps (expressionUpTo n) base (skipSpacing (steps.flatMap (['.'] ++ bare extra true ·) ++ rest)) =
      .ok (.select base steps, skipSpacing rest) := by
  obtain ⟨hcount, hlen⟩ := length_of_parts ['.'] (by decide) (bare extra true) steps
  have hpart : ∀ e ∈ steps, ∀ more, Stops joins more → selectionStep (expressionUpTo n)
      (bare extra true e ++ more) = .ok (some e, skipSpacing more) := by
    intro e he more hmore
    have := hlen e he
    exact (hsteps e he).step (hform e he) extra n more (by omega) hmore
  have hmany : steps.length ≤
      (skipSpacing (steps.flatMap (['.'] ++ bare extra true ·) ++ rest)).length := by
    obtain ⟨first, others, rfl⟩ := List.exists_cons_of_ne_nil hne
    rw [List.flatMap_cons, List.append_assoc, List.append_assoc, List.singleton_append,
      skipSpacing_of_unspaced (.cons _ rfl (by decide))]
    simp only [List.flatMap_cons, List.length_append, List.length_cons, List.length_nil] at hcount ⊢
    omega
  have hparts := parts_written ['.'] (fun _ => Stops.cons rfl) hrest.word
    (hrest.step (Nat.le_refl 1) _)
    (fun e he more => ((hsteps e he).point_step extra (hform e he) more).2) hpart hmany
  have hsome : steps.isEmpty = false := List.isEmpty_eq_false_iff.mpr hne
  simp only [withSteps, hparts, hsome, Except.ok_bind]
  rfl

theorem withStages_written (base : Expr) {stages : List Expr} (hne : stages ≠ [])
    (hstages : ∀ e ∈ stages, Readable e) (hform : ∀ e ∈ stages, e.isStage = true) {n : Nat}
    {rest : List Char} (hn : (stages.flatMap (" | ".toList ++ bare extra true ·)).length ≤ n + 1)
    (hrest : Follows 2 rest) :
    withStages (expressionUpTo n) base
        (skipSpacing (stages.flatMap (" | ".toList ++ bare extra true ·) ++ rest)) =
      .ok (.pipe base stages, skipSpacing rest) := by
  have hlen := (length_of_parts " | ".toList (by decide) (bare extra true) stages).2
  have hpart : ∀ e ∈ stages, ∀ more, Stops joins more → functionReference (expressionUpTo n)
      (bare extra true e ++ more) = .ok (some e, skipSpacing more) := by
    intro e he more hmore
    have := hlen e he
    exact (hstages e he).stage (hform e he) extra n more (by omega) hmore
  have hskip : ∀ more, skipSpacing (" | ".toList ++ more) = '|' :: ' ' :: more := by
    intro more
    show skipSpacing (' ' :: '|' :: ' ' :: more) = _
    rw [skipSpacing_space rfl, skipSpacing_of_unspaced (.cons _ rfl (by decide))]
  have hopen : ∀ e ∈ stages, ∀ more,
      symbol? "|" (skipSpacing (" | ".toList ++ (bare extra true e ++ more))) =
        some (bare extra true e ++ more) := by
    intro e he more
    rw [hskip]
    exact ((hstages e he).begins extra true more).symbol?_space "|"
  have hmany : stages.length ≤
      (skipSpacing (stages.flatMap (" | ".toList ++ bare extra true ·) ++ rest)).length := by
    obtain ⟨first, others, rfl⟩ := List.exists_cons_of_ne_nil hne
    have := (length_of_parts " | ".toList (by decide) (bare extra true) others).1
    rw [List.flatMap_cons, List.append_assoc, List.append_assoc, hskip]
    simp only [List.length_cons, List.length_append]
    omega
  have hparts := parts_written " | ".toList (fun _ => Stops.cons rfl) hrest.word
    (hrest.stage (Nat.le_refl 2) _) hopen hpart hmany
  have hsome : stages.isEmpty = false := List.isEmpty_eq_false_iff.mpr hne
  simp only [withStages, hparts, hsome, Except.ok_bind]
  rfl

theorem readable_select {base : Expr} {steps : List Expr} (hbase : Readable base) (hne : steps ≠ [])
    (hsteps : ∀ e ∈ steps, Readable e) (hform : ∀ e ∈ steps, e.isStep = true) :
    Readable (.select base steps) := by
  refine .of_behind hbase .base (by decide) rfl rfl rfl rfl withSteps (fun _ _ => rfl)
    (fun extra => steps.flatMap (['.'] ++ bare extra true ·))
    (fun extra last => bare_select extra last base steps)
    (fun extra rest => ?_) fun extra n rest hn hrest => ?_
  · obtain ⟨first, others, rfl⟩ := List.exists_cons_of_ne_nil hne
    have hfirst := List.mem_cons_self (a := first) (l := others)
    simp only [List.flatMap_cons, List.append_assoc]
    exact ((hsteps first hfirst).point_step extra (hform first hfirst) _).1
  · exact withSteps_written extra base hne hsteps hform hn hrest

theorem readable_pipe {base : Expr} {stages : List Expr} (hbase : Readable base) (hne : stages ≠ [])
    (hstages : ∀ e ∈ stages, Readable e) (hform : ∀ e ∈ stages, e.isStage = true) :
    Readable (.pipe base stages) := by
  refine .of_behind hbase .piped (by decide) rfl rfl rfl rfl withStages (fun _ _ => rfl)
    (fun extra => stages.flatMap (" | ".toList ++ bare extra true ·))
    (fun extra last => bare_pipe extra last base stages)
    (fun extra rest => ?_) fun extra n rest hn hrest => ?_
  · obtain ⟨first, others, rfl⟩ := List.exists_cons_of_ne_nil hne
    simp only [List.flatMap_cons, List.append_assoc]
    exact .stage_mark _
  · exact withStages_written extra base hne hstages hform hn hrest

/-! ## Choices, negations and chains -/

theorem readable_ternary {condition yes no : Expr} (hcondition : Readable condition) (hyes : Readable yes)
    (hno : Readable no) : Readable (.ternary condition yes no) where
  begins := by
    intro _ _ rest
    rw [bare_ternary, List.append_assoc]
    exact hcondition.begins_written _ .condition _
  alone := by
    intro extra last n rest hn hrest hlast hternary
    have hend : Follows 11 rest := hlast (hternary rfl)
    rw [bare_ternary] at hn ⊢
    simp only [List.length_append, List.length_cons] at hn
    simp only [List.append_assoc, List.cons_append]
    have hfollows := Follows.choice_mark
      (' ' :: (written extra .free yes ++ ' ' :: ':' :: ' ' :: (written extra .free no ++ rest)))
    have hread : ruleUpTo n 2 _ = _ := hcondition.at_place extra .condition (by decide) (by omega)
      hfollows fun h => absurd h Bool.false_ne_true
    rw [skipSpacing_space rfl, skipSpacing_of_unspaced (.cons _ rfl (by decide))] at hread
    have hmark : symbol? "?" ('?' :: ' ' ::
        (written extra .free yes ++ ' ' :: ':' :: ' ' :: (written extra .free no ++ rest))) = some _ :=
      (hyes.begins_written extra .free _).symbol?_space "?"
    have hthen := hyes.required_free extra (n := n) (by omega)
      (Follows.colon 11 (' ' :: (written extra .free no ++ rest)))
    have hcolon := fun start => requiredSymbol_colon (hno.begins_written extra .free rest) start
    have helse := hno.required_free extra (n := n) (by omega) hend
    rw [skipSpacing_space rfl] at hthen
    rw [show (Expr.ternary condition yes no).looseness = 2 + 1 from rfl, ruleUpTo_succ]
    simp only [loosen, ternaryRule, hread, hmark, hthen, hcolon, helse, Except.ok_bind]
    rfl
  step := fun h => absurd h Bool.false_ne_true
  stage := fun h => absurd h Bool.false_ne_true

theorem readable_not {operand : Expr} (h : Readable operand) : Readable (.not operand) where
  begins := fun _ _ rest => .cons rfl (by decide) _
  alone := by
    intro extra last n rest hn hrest hlast _
    rw [bare_not, List.length_append, List.length_cons] at hn
    rw [bare_not, List.append_assoc, List.cons_append]
    have hread : ruleUpTo n 5 _ = _ := h.at_place extra (.negated last) (by decide : 5 ≤ 11)
      (by omega) (hrest.mono (by decide : 5 ≤ 6)) hlast
    have hmark : keyword? "not" ("not".toList ++ ' ' :: (written extra (.negated last) operand ++ rest)) =
        some (written extra (.negated last) operand ++ rest) := by
      have hbegins := h.begins_written extra (.negated last) rest
      rw [keyword?_append (by decide) (Stops.cons rfl), hbegins.skipSpacing_space]
    rw [show (Expr.not operand).looseness = 5 + 1 from rfl, ruleUpTo_succ]
    simp only [loosen, negatable, hmark, hread, Except.ok_bind]
    rfl
  step := fun h => absurd h Bool.false_ne_true
  stage := fun h => absurd h Bool.false_ne_true

/-- A chain, given by its first operand and the operators with the others. -/
theorem readable_chain_of_members {l : Level} {first : Expr} {m : Operator × Expr} {more : List (Operator × Expr)}
    (hfirst : Readable first) (hmore : ∀ x ∈ m :: more, x.1.level = l ∧ Readable x.2) :
    Readable (.chain (first :: (m :: more).map (·.2)) ((m :: more).map (·.1))) := by
  have hof : Level.ofOperators ((m :: more).map (·.1)) = l := (hmore m (List.mem_cons_self ..)).1
  have hloose : (Expr.chain (first :: (m :: more).map (·.2)) ((m :: more).map (·.1))).looseness =
      l.looseness - 1 + 1 := by
    show (Level.ofOperators ((m :: more).map (·.1))).looseness = _
    rw [hof]
    cases l <;> rfl
  have htext : ∀ extra last, bare extra last (.chain (first :: (m :: more).map (·.2)) ((m :: more).map (·.1))) =
      chainText extra l last first (m :: more) := fun extra last => by
    rw [bare_chain, hof]
    rfl
  refine ⟨fun extra last rest => ?_, fun extra last n rest hn hrest hlast _ => ?_,
    fun h => absurd h Bool.false_ne_true, fun h => absurd h Bool.false_ne_true⟩
  · rw [htext]
    exact begins_chainText extra hfirst l last _ rest
  · rw [htext] at hn ⊢
    rw [hloose] at hrest ⊢
    have hrest' : Follows l.looseness rest := hrest.mono (by omega)
    have hread := operand_written extra hrest' hlast hfirst (fun x hx => (hmore x hx).1) hn
    have htail := chainTail_written extra hrest' hlast hmore hn (length_le_chainRest extra l last rest _)
    rw [ruleUpTo_succ, loosen_level]
    simp only [level, hread, htail, Except.ok_bind]
    rfl

theorem readable_chain {operands : List Expr} {operators : List Operator} {l : Level}
    (h : ∀ e ∈ operands, Readable e) (hne : operators ≠ []) (hlevel : ∀ op ∈ operators, op ∈ l.operators)
    (hcount : operands.length = operators.length + 1) : Readable (.chain operands operators) := by
  obtain ⟨first, others, rfl⟩ := List.exists_cons_of_length_eq_add_one hcount
  have hothers : others.length = operators.length := Nat.succ.inj hcount
  obtain ⟨op, ops, rfl⟩ := List.exists_cons_of_ne_nil hne
  obtain ⟨e, es, rfl⟩ := List.exists_cons_of_length_eq_add_one hothers
  have hmore : ∀ x ∈ (op, e) :: ops.zip es, x.1.level = l ∧ Readable x.2 := fun x hx => by
    obtain ⟨hop, he⟩ := List.of_mem_zip (show (x.1, x.2) ∈ (op :: ops).zip (e :: es) from hx)
    exact ⟨Operator.mem_operators_iff.mp (hlevel _ hop), h _ (List.mem_cons_of_mem _ he)⟩
  have hread := readable_chain_of_members (h first (List.mem_cons_self ..)) hmore
  have hcount' : es.length = ops.length := Nat.succ.inj hothers
  rwa [List.map_cons, List.map_cons, List.map_snd_zip (Nat.le_of_eq hcount'),
    List.map_fst_zip (Nat.le_of_eq hcount'.symm)] at hread

/-! ## All expressions -/

theorem readable_of_printable {e : Expr} (h : Printable e) : Readable e := by
  induction h with
  | null => exact readable_null
  | bool b => exact readable_bool b
  | int n => exact readable_int n
  | string s => exact readable_string s
  | list _ ih => exact readable_list ih
  | intRange first final => exact readable_intRange first final
  | charRange hfirst hfinal => exact readable_charRange hfirst hfinal
  | map _ ih => exact readable_map ih
  | var hname => exact readable_var hname
  | call hname _ ih => exact readable_call hname ih
  | entry key hname => exact readable_entry key hname
  | select _ hne _ hform ih ihsteps => exact readable_select ih hne ihsteps hform
  | pipe _ hne _ hform ih ihstages => exact readable_pipe ih hne ihstages hform
  | chain l _ hne hlevel hcount ih => exact readable_chain ih hne hlevel hcount
  | not _ ih => exact readable_not ih
  | ternary _ _ _ ihc ihy ihn => exact readable_ternary ihc ihy ihn

/-- A printable expression, written with the parentheses it needs and whichever others, is
    read as that expression. -/
theorem parse_print {e : Expr} (h : Printable e) (extra : Place → Expr → Bool) :
    Expr.parse (print extra e) = .ok e := by
  have hread := (readable_of_printable h).required_free extra
    (n := (written extra .free e).length) (Nat.le_refl _) (.nil 11)
  have hstart := (readable_of_printable h).begins_written extra .free []
  rw [List.append_nil] at hread hstart
  have hskip : skipSpacing (print extra e).toList = written extra .free e := by
    rw [print, String.toList_ofList, skipSpacing_of_unspaced hstart.unspaced]
  simp only [Expr.parse, hskip]
  show Except.mapError _ (required (expressionUpTo _) _ >>= _) = _
  rw [hread, Except.ok_bind]
  rfl

/-- The choice needs its parentheses, as a product goes on behind it; the sum needs none. -/
theorem parse_negated_sum : ∃ e, Printable e ∧
    print (fun _ _ => false) e = "not x.f(1) + (a ? \"\\\"\" : m[\"k\"]) * -3" ∧
    Expr.parse (print (fun _ _ => false) e) = .ok e := by
  have hselect : Printable (.select (.var "x") [.call "f" [.literal (.int 1)]]) :=
    .select (.var (by decide)) (by decide)
      (List.forall_mem_singleton.mpr (.call (by decide) (List.forall_mem_singleton.mpr (.int 1))))
      (List.forall_mem_singleton.mpr rfl)
  have hchoice : Printable (.ternary (.var "a") (.literal (.string "\"")) (.entry "m" "k")) :=
    .ternary (.var (by decide)) (.string "\"") (.entry "k" (by decide))
  have hproduct : Printable (.chain [_, .literal (.int (-3))] [.times]) :=
    .chain .product (List.forall_mem_cons.mpr ⟨hchoice, List.forall_mem_singleton.mpr (.int (-3))⟩)
      (by decide) (by decide) rfl
  have hsum : Printable (.not (.chain [_, _] [.add])) :=
    .not (.chain .sum (List.forall_mem_cons.mpr ⟨hselect, List.forall_mem_singleton.mpr hproduct⟩)
      (by decide) (by decide) rfl)
  exact ⟨_, hsum, by rfl, parse_print hsum _⟩

end TemplateEngine.Expr
