/-
  TemplateEngine.Proofs.Grammar.Yield — what the rules of expressions read.

  Each rule takes a piece from the front of the text, skips the spacing behind it and
  answers with a well-formed expression, if the rules it refers to do so (`Yields`). The
  rules refer to each other with less and less text, so all of them do.
-/

import TemplateEngine.Proofs.Expression.WellFormed
import TemplateEngine.Proofs.Grammar.Loops
import TemplateEngine.Proofs.Scan.Spelling

namespace TemplateEngine.Grammar

open Scan
open TemplateEngine.Expr (WellFormed)
open Operator (Level)

/-- What the rule reads is good, it is a piece of the text, and no spacing is left behind it. -/
def Yields {α : Type} (good : α → Prop) (rule : Rule α) : Prop :=
  ∀ s x rest, rule s = .ok (some x, rest) → good x ∧ Takes s rest ∧ Unspaced rest

/-- Members behind a first one: either there are none, or they are a piece of the text. -/
structure Tail {α : Type} (good : α → Prop) (s : List Char) (more : List α) (rest : List Char) : Prop where
  good : ∀ x ∈ more, good x
  taken : more = [] ∧ rest = s ∨ more ≠ [] ∧ Takes s rest ∧ Unspaced rest

namespace Tail

variable {α : Type} {good : α → Prop} {s r rest : List Char} {more : List α}

theorem nil : Tail good s [] s := ⟨nofun, .inl ⟨rfl, rfl⟩⟩

theorem isSuffix (h : Tail good s more rest) : rest <:+ s := by
  rcases h.taken with ⟨-, rfl⟩ | ⟨-, htakes, -⟩
  · exact List.suffix_refl _
  · exact htakes.isSuffix

theorem unspaced (h : Tail good s more rest) (hs : Unspaced s) : Unspaced rest := by
  rcases h.taken with ⟨-, rfl⟩ | ⟨-, -, hrest⟩
  · exact hs
  · exact hrest

theorem cons {x : α} (hx : good x) (htakes : Takes s r) (hr : Unspaced r) (h : Tail good r more rest) :
    Tail good s (x :: more) rest where
  good := by
    intro y hy
    rcases List.mem_cons.mp hy with rfl | hy
    · exact hx
    · exact h.good y hy
  taken := .inr ⟨List.cons_ne_nil _ _, htakes.suffix h.isSuffix, h.unspaced hr⟩

end Tail

/-- Rounds read a piece of the text if each of them does. -/
theorem rounds_yields {α : Type} {good : α → Prop} {round : Rule α} (h : Yields good round) {n : Nat}
    {s rest : List Char} {more : List α} (hread : rounds round n s = .ok (more, rest)) : Tail good s more rest := by
  induction n generalizing s more with
  | zero => cases hread; exact .nil
  | succ n ih =>
    rcases rounds_succ_iff.mp hread with ⟨rfl, rfl, -⟩ | ⟨x, r, more', hx, hmore, rfl⟩
    · exact .nil
    · obtain ⟨hgood, htakes, hr⟩ := h _ _ _ hx
      exact .cons hgood htakes hr (ih hmore)

/-! ## Operators and what stands between them -/

theorem startsFirm_symbol (op : Operator) : startsFirm op.symbol = true := by
  cases op <;> rfl

theorem keyword_of_isWord {op : Operator} (h : op.isWord = true) : isKeyword op.symbol = true := by
  cases op <;> first | rfl | cases h

theorem operator?_takes {operators : List Operator} {s rest : List Char} {op : Operator}
    (h : operator? operators s = some (op, rest)) : op ∈ operators ∧ Takes s rest ∧ Unspaced rest := by
  obtain ⟨other, hmem, h⟩ := List.exists_of_findSome?_eq_some h
  obtain ⟨r, hread, h⟩ := Option.map_eq_some_iff.mp h
  obtain ⟨rfl, rfl⟩ := Prod.mk.inj h
  refine ⟨hmem, ?_⟩
  split at hread
  · rename_i hword
    exact keyword?_takes (keyword_of_isWord hword) hread
  · exact symbol?_takes (startsFirm_symbol _) hread

theorem continuation_yields {operators : List Operator} {operand : Rule Expr} (h : Yields WellFormed operand) :
    Yields (fun m => m.1 ∈ operators ∧ WellFormed m.2) (continuation operators operand) := by
  rintro s ⟨op, e⟩ rest hread
  obtain ⟨r, hop, he⟩ := continuation_eq_some_iff.mp hread
  obtain ⟨hmem, htakes, -⟩ := operator?_takes hop
  obtain ⟨hgood, htakes', hrest⟩ := h _ _ _ he
  exact ⟨⟨hmem, hgood⟩, htakes.trans htakes', hrest⟩

theorem chainTail_yields {operators : List Operator} {operand : Rule Expr} (h : Yields WellFormed operand)
    {n : Nat} {s rest : List Char} {more : List (Operator × Expr)}
    (hread : chainTail operators operand n s = .ok (more, rest)) :
    Tail (fun m => m.1 ∈ operators ∧ WellFormed m.2) s more rest :=
  rounds_yields (continuation_yields h) (chainTail_eq_rounds .. ▸ hread)

theorem wellFormed_joined {l : Level} {first : Expr} {more : List (Operator × Expr)}
    (hfirst : WellFormed first) (hmore : ∀ m ∈ more, m.1 ∈ l.operators ∧ WellFormed m.2) :
    WellFormed (joined first more) := by
  cases more with
  | nil => exact hfirst
  | cons m more =>
    refine .chain l ?_ ?_ ?_ ?_
    · intro e he
      rcases List.mem_cons.mp he with rfl | he
      · exact hfirst
      · obtain ⟨m, hm, rfl⟩ := List.mem_map.mp he
        exact (hmore m hm).2
    · simp
    · simp
    · intro op hop
      obtain ⟨m, hm, rfl⟩ := List.mem_map.mp hop
      exact (hmore m hm).1

theorem level_yields (l : Level) {operand : Rule Expr} (h : Yields WellFormed operand) :
    Yields WellFormed (level l operand) := by
  intro s x rest hread
  obtain ⟨first, r, more, hfirst, hmore, rfl⟩ := level_eq_some_iff.mp hread
  obtain ⟨hgood, htakes, hr⟩ := h _ _ _ hfirst
  have htail := chainTail_yields h hmore
  exact ⟨wellFormed_joined hgood htail.good, htakes.suffix htail.isSuffix, htail.unspaced hr⟩

theorem negatable_yields {operand : Rule Expr} (h : Yields WellFormed operand) :
    Yields WellFormed (negatable operand) := by
  intro s x rest hread
  rcases negatable_eq_some_iff.mp hread with ⟨-, he⟩ | ⟨r, e, hnot, he, rfl⟩
  · exact h _ _ _ he
  · obtain ⟨htakes, -⟩ := keyword?_takes (by decide) hnot
    obtain ⟨hgood, htakes', hrest⟩ := h _ _ _ he
    exact ⟨.not hgood, htakes.trans htakes', hrest⟩

/-! ## Members in brackets -/

section

variable {expr : Rule Expr} (h : Yields WellFormed expr)
include h

theorem furtherMember_yields : Yields WellFormed (furtherMember expr) := by
  intro s x rest hread
  obtain ⟨r, hcomma, hx⟩ := furtherMember_eq_some_iff.mp hread
  obtain ⟨htakes, -⟩ := symbol?_takes (by decide) hcomma
  obtain ⟨hgood, htakes', hrest⟩ := h _ _ _ hx
  exact ⟨hgood, htakes.trans htakes', hrest⟩

theorem afterCommas_yields {n : Nat} {s rest : List Char} {more : List Expr}
    (hread : afterCommas expr n s = .ok (more, rest)) : Tail WellFormed s more rest :=
  rounds_yields (furtherMember_yields h) (afterCommas_eq_rounds .. ▸ hread)

theorem enclosed_yields {opening closing : String} (ho : startsFirm opening = true)
    (hc : startsFirm closing = true) :
    Yields (fun items => ∀ e ∈ items, WellFormed e) (enclosed opening closing expr) := by
  intro s items rest hread
  obtain ⟨r, hopen, ⟨rfl, hclose⟩ | ⟨-, first, r', more, r'', hfirst, hmore, hclose, rfl⟩⟩ :=
    enclosed_eq_some_iff.mp hread
  · obtain ⟨htakes, -⟩ := symbol?_takes ho hopen
    obtain ⟨htakes', hrest⟩ := symbol?_takes hc hclose
    exact ⟨nofun, htakes.trans htakes', hrest⟩
  · obtain ⟨htakes, -⟩ := symbol?_takes ho hopen
    obtain ⟨hgood, htakes', hr'⟩ := h _ _ _ hfirst
    obtain ⟨htakes'', hrest⟩ := symbol?_takes hc hclose
    have htail := (afterCommas_yields h hmore).cons hgood (htakes.trans htakes') hr'
    exact ⟨htail.good, (htakes.trans htakes').suffix
      ((htakes''.isSuffix).trans (afterCommas_yields h hmore).isSuffix), hrest⟩

theorem arguments_yields : Yields (fun args => ∀ e ∈ args, WellFormed e) (arguments expr) :=
  enclosed_yields h (by decide) (by decide)

end

theorem fixedKey_yields : Yields (fun _ => True) fixedKey := by
  intro s key rest hread
  obtain ⟨r, r', hopen, hkey, hclose⟩ := fixedKey_eq_some_iff.mp hread
  obtain ⟨htakes, -⟩ := symbol?_takes (by decide) hopen
  obtain ⟨piece, hfirm, -, rfl, -⟩ := string?_takes hkey
  obtain ⟨htakes', hrest⟩ := symbol?_takes (by decide) hclose
  have hskip : Takes (piece ++ r') (skipSpacing r') := Takes.skip ⟨piece, hfirm, rfl⟩
  exact ⟨trivial, (htakes.trans hskip).trans htakes', hrest⟩

/-! ## Literals -/

theorem range?_takes {α : Type} {bound : List Char → Option (α × List Char)} {good : α → Prop}
    (hbound : ∀ s x r, bound s = some (x, r) → good x ∧ Takes s r) {s rest : List Char} {first last : α}
    (h : range? bound s = some ((first, last), rest)) :
    (good first ∧ good last) ∧ Takes s rest ∧ Unspaced rest := by
  obtain ⟨r, r', r'', hfirst, hdots, hlast, rfl⟩ := range?_eq_some_iff.mp h
  obtain ⟨hgood, htakes⟩ := hbound _ _ _ hfirst
  obtain ⟨htakes', -⟩ := symbol?_takes (by decide) hdots
  obtain ⟨hgood', htakes''⟩ := hbound _ _ _ hlast
  exact ⟨⟨hgood, hgood'⟩, ((htakes.skip.trans htakes').trans htakes'').skip, unspaced_skipSpacing r''⟩

theorem listLiteral_yields {expr : Rule Expr} (h : Yields WellFormed expr) :
    Yields WellFormed (listLiteral expr) := by
  intro s x rest hread
  rcases listLiteral_eq_some_iff.mp hread with
    ⟨first, last, hrange, rfl⟩ | ⟨-, ⟨first, last, hrange, rfl⟩ | ⟨-, items, hitems, rfl⟩⟩
  · have hbound : ∀ s x r, integer? s = some (x, r) → True ∧ Takes s r :=
      fun s x r hx => ⟨trivial, integer?_takes hx⟩
    exact ⟨.intRange first last, (range?_takes hbound hrange).2⟩
  · obtain ⟨⟨hfirst, hlast⟩, htaken⟩ := range?_takes (fun _ _ _ hx => letter?_takes hx) hrange
    exact ⟨.charRange hfirst hlast, htaken⟩
  · obtain ⟨hgood, htaken⟩ := enclosed_yields h (by decide) (by decide)
      _ _ _ hitems
    exact ⟨.list hgood, htaken⟩

theorem mapKey_takes {s rest : List Char} {key : String} (h : mapKey s = .ok (some key, rest)) :
    Takes s rest := by
  rcases mapKey_eq_some_iff.mp h with hname | ⟨-, hstring⟩
  · exact (identifier?_takes hname).2
  · obtain ⟨piece, hfirm, -, hs, -⟩ := string?_takes hstring
    exact ⟨piece, hfirm, hs⟩

theorem mapEntries_yields {expr : Rule Expr} (h : Yields WellFormed expr) {start : List Char} {n : Nat}
    {s rest : List Char} {entries : List (String × Expr)}
    (hread : mapEntries expr start n s = .ok (entries, rest)) :
    (∀ m ∈ entries, WellFormed m.2) ∧ Takes s rest ∧ Unspaced rest := by
  induction n generalizing s entries with
  | zero => cases hread
  | succ n ih =>
    obtain ⟨key, r, r', e, r'', hkey, hcolon, he, hrest⟩ := mapEntries_succ_iff.mp hread
    obtain ⟨hcolon, -⟩ := symbol?_takes (by decide) hcolon
    obtain ⟨hgood, he, -⟩ := h _ _ _ he
    have htakes : Takes s r'' := ((mapKey_takes hkey).skip.trans hcolon).trans he
    rcases hrest with ⟨-, hclose, rfl⟩ | ⟨r₃, more, hcomma, hmore, rfl⟩
    · obtain ⟨hclose, hrest⟩ := symbol?_takes (by decide) hclose
      refine ⟨fun m hm => ?_, htakes.trans hclose, hrest⟩
      rw [List.mem_singleton.mp hm]
      exact hgood
    · obtain ⟨hcomma, -⟩ := symbol?_takes (by decide) hcomma
      obtain ⟨hgood', htakes', hrest⟩ := ih hmore
      refine ⟨fun m hm => ?_, (htakes.trans hcomma).trans htakes', hrest⟩
      rcases List.mem_cons.mp hm with rfl | hm
      · exact hgood
      · exact hgood' m hm

/-- No key starts with the character that makes a brace the start of a comment. -/
theorem mapKey_hash (s : List Char) : mapKey ('#' :: s) = .ok (none, '#' :: s) := by
  rw [mapKey, identifier?_of_stops (Stops.cons rfl)]
  exact string?_of_stops (Stops.cons rfl) (Stops.cons rfl)

/-- The brace of a map starts no comment, whatever follows the map. -/
theorem mapLiteral_brace {expr : Rule Expr} {s rest : List Char} {x : Expr}
    (h : mapLiteral expr s = .ok (some x, rest)) : ∃ c t, s = '\x7b' :: c :: t ∧ c ≠ '#' := by
  obtain ⟨r, hopen, hinside⟩ := mapLiteral_eq_some_iff.mp h
  obtain ⟨t, rfl, rfl⟩ := symbol?_eq_some_iff.mp hopen
  have hclose : ∀ t, symbol? "\x7d" ('#' :: t) = none := fun _ => rfl
  cases t with
  | nil =>
    rcases hinside with ⟨hclose, -⟩ | ⟨-, entries, hentries, -⟩
    · cases hclose
    · cases hentries
  | cons c t =>
    refine ⟨c, t, rfl, ?_⟩
    rintro rfl
    rw [skipSpacing_of_unspaced (.cons t rfl (by decide)), hclose] at hinside
    rcases hinside with ⟨hclose, -⟩ | ⟨-, entries, hentries, -⟩
    · cases hclose
    · obtain ⟨key, r, -, -, -, hkey, -⟩ := mapEntries_succ_iff.mp hentries
      rw [mapKey_hash] at hkey
      cases hkey

theorem mapLiteral_yields {expr : Rule Expr} (h : Yields WellFormed expr) :
    Yields WellFormed (mapLiteral expr) := by
  intro s x rest hread
  obtain ⟨c, t, rfl, hc⟩ := mapLiteral_brace hread
  obtain ⟨r, hopen, hinside⟩ := mapLiteral_eq_some_iff.mp hread
  obtain ⟨r', hr', rfl⟩ := symbol?_eq_some_iff.mp hopen
  obtain rfl : c :: t = r' := (List.cons.inj hr').2
  -- the brace and the piece behind it are one piece
  have hbrace : ∀ {rest}, rest <:+ skipSpacing (c :: t) → rest.length < (skipSpacing (c :: t)).length →
      Takes ('\x7b' :: c :: t) rest := by
    intro rest hsuffix hlen
    obtain ⟨piece, hpiece⟩ := hsuffix.trans (skipSpacing_isSuffix (c :: t))
    have hlen' := (skipSpacing_isSuffix (c :: t)).length_le
    cases piece with
    | nil =>
      rw [← hpiece] at hlen'
      simp at hlen hlen' hpiece
      subst hpiece
      omega
    | cons d piece =>
      obtain ⟨rfl, rfl⟩ := List.cons.inj hpiece
      exact ⟨'\x7b' :: d :: piece, .brace hc piece, rfl⟩
  rcases hinside with ⟨hclose, rfl⟩ | ⟨-, entries, hentries, rfl⟩
  · obtain ⟨htakes, hrest⟩ := symbol?_takes (by decide) hclose
    exact ⟨.map nofun, hbrace htakes.isSuffix htakes.length_lt, hrest⟩
  · obtain ⟨hgood, htakes, hrest⟩ := mapEntries_yields h hentries
    exact ⟨.map hgood, hbrace htakes.isSuffix htakes.length_lt, hrest⟩

theorem scalar_yields : Yields (fun l => ∀ c, l ≠ Literal.char c) scalar := by
  intro s l rest hread
  rcases scalar_eq_some_iff.mp hread with ⟨-, hread⟩ | ⟨text, r, hstring, rfl, rfl⟩
  · rcases hread with ⟨htrue, rfl⟩ | ⟨-, hread⟩
    · exact ⟨nofun, keyword?_takes (by decide) htrue⟩
    rcases hread with ⟨hfalse, rfl⟩ | ⟨-, hread⟩
    · exact ⟨nofun, keyword?_takes (by decide) hfalse⟩
    rcases hread with ⟨x, r, hfraction, rfl, rfl⟩ | ⟨-, hread⟩
    · exact ⟨nofun, (double?_takes hfraction).skip, unspaced_skipSpacing r⟩
    rcases hread with ⟨n, r, hnumber, rfl, rfl⟩ | ⟨-, hnull, rfl⟩
    · exact ⟨nofun, (integer?_takes hnumber).skip, unspaced_skipSpacing r⟩
    · exact ⟨nofun, keyword?_takes (by decide) hnull⟩
  · obtain ⟨piece, hfirm, -, hs, -⟩ := string?_takes hstring
    exact ⟨nofun, Takes.skip ⟨piece, hfirm, hs⟩, unspaced_skipSpacing r⟩

theorem literal_yields : Yields WellFormed literal := by
  intro s x rest hread
  obtain ⟨l, hl, rfl⟩ := literal_eq_some_iff.mp hread
  obtain ⟨hchar, htaken⟩ := scalar_yields _ _ _ hl
  exact ⟨.literal hchar, htaken⟩

/-! ## Names -/

section

variable {expr : Rule Expr} (h : Yields WellFormed expr)
include h

theorem functionReference_yields :
    Yields (fun e => WellFormed e ∧ e.isStage = true) (functionReference expr) := by
  intro s x rest hread
  obtain ⟨name, r, hname, ⟨args, hargs, rfl⟩ | ⟨-, rfl, rfl⟩⟩ := functionReference_eq_some_iff.mp hread
  · obtain ⟨hname, htakes⟩ := identifier?_takes hname
    obtain ⟨hgood, htakes', hrest⟩ := arguments_yields h _ _ _ hargs
    exact ⟨⟨.call hname hgood, rfl⟩, htakes.trans htakes', hrest⟩
  · obtain ⟨hname, htakes⟩ := identifier?_takes hname
    exact ⟨⟨.var hname, rfl⟩, htakes.skip, unspaced_skipSpacing r⟩

theorem selectionStep_yields : Yields (fun e => WellFormed e ∧ e.isStep = true) (selectionStep expr) := by
  intro s x rest hread
  obtain ⟨name, r, hname, ⟨key, hkey, rfl⟩ | ⟨-, hread⟩⟩ := selectionStep_eq_some_iff.mp hread
  · obtain ⟨hname, htakes⟩ := identifier?_takes hname
    obtain ⟨-, htakes', hrest⟩ := fixedKey_yields _ _ _ hkey
    exact ⟨⟨.entry key hname, rfl⟩, htakes.trans htakes', hrest⟩
  · obtain ⟨⟨hgood, hstage⟩, htaken⟩ := functionReference_yields h _ _ _ hread
    refine ⟨⟨hgood, ?_⟩, htaken⟩
    cases x <;> first | rfl | cases hstage

theorem named_yields {primary : Rule Expr} (hprimary : Yields WellFormed primary) :
    Yields WellFormed (named primary expr) := by
  intro s x rest hread
  obtain ⟨name, r, hname, hread⟩ := named_eq_some_iff.mp hread
  obtain ⟨hname, htakes⟩ := identifier?_takes hname
  rcases hread with ⟨key, hkey, rfl⟩ | ⟨-, hread⟩
  · obtain ⟨-, htakes', hrest⟩ := fixedKey_yields _ _ _ hkey
    exact ⟨.entry key hname, htakes.trans htakes', hrest⟩
  rcases hread with ⟨args, hargs, rfl⟩ | ⟨-, hread⟩
  · obtain ⟨hgood, htakes', hrest⟩ := arguments_yields h _ _ _ hargs
    exact ⟨.call hname hgood, htakes.trans htakes', hrest⟩
  rcases hread with ⟨-, rfl, rfl⟩ | ⟨-, argument, hargument, rfl⟩
  · exact ⟨.var hname, htakes.skip, unspaced_skipSpacing r⟩
  · obtain ⟨hgood, htakes', hrest⟩ := hprimary _ _ _ hargument
    refine ⟨.call hname fun e he => ?_, htakes.skip.trans htakes', hrest⟩
    rw [List.mem_singleton.mp he]
    exact hgood

end

/-! ## The ladder -/

theorem orElse_yields {α : Type} {good : α → Prop} {first second : Rule α} (hstays : Stays first)
    (h : Yields good first) (h' : Yields good second) : Yields good (orElse first second) := by
  intro s x rest hread
  rcases (orElse_eq_some_iff hstays).mp hread with hread | ⟨-, hread⟩
  · exact h _ _ _ hread
  · exact h' _ _ _ hread

section Parts

variable {opening : List Char → Option (List Char)} {part : Rule Expr} {good : Expr → Prop}
  (hopening : ∀ s r, opening s = some r → Takes s r) (hpart : Yields good part)
include hopening hpart

theorem markedPart_yields : Yields good (markedPart opening part) := by
  intro s x rest hread
  obtain ⟨r, hopen, hx⟩ := markedPart_eq_some_iff.mp hread
  obtain ⟨hgood, htakes, hrest⟩ := hpart _ _ _ hx
  exact ⟨hgood, (hopening _ _ hopen).trans htakes, hrest⟩

theorem parts_yields {n : Nat} {s rest : List Char} {more : List Expr}
    (hread : parts opening part n s = .ok (more, rest)) : Tail good s more rest :=
  rounds_yields (markedPart_yields hopening hpart) (parts_eq_rounds .. ▸ hread)

end Parts

theorem symbol?_of_point? {s r : List Char} (h : point? s = some r) :
    mark? ".." s = none ∧ symbol? "." s = some r := by
  unfold point? at h
  split at h
  · cases h
  · rename_i hmark
    exact ⟨by simpa using hmark, h⟩

theorem point?_takes {s r : List Char} (h : point? s = some r) : Takes s r :=
  (symbol?_takes (by decide) (symbol?_of_point? h).2).1

theorem stageMark_takes {s r : List Char} (h : symbol? "|" s = some r) : Takes s r :=
  (symbol?_takes (by decide) h).1

section

variable {primary expr : Rule Expr} (hexpr : Yields WellFormed expr)
include hexpr

theorem withSteps_yields {rule : Rule Expr} (h : Yields WellFormed rule) :
    Yields WellFormed (behind rule (withSteps expr)) := by
  intro s x rest hread
  obtain ⟨base, r, hbase, hextend⟩ := behind_eq_some_iff.mp hread
  obtain ⟨steps, hsteps, rfl⟩ := withSteps_eq_ok_iff.mp hextend
  obtain ⟨hgood, htakes, hr⟩ := h _ _ _ hbase
  have htail := parts_yields (fun _ _ => point?_takes) (selectionStep_yields hexpr) hsteps
  refine ⟨?_, htakes.suffix htail.isSuffix, htail.unspaced hr⟩
  cases steps with
  | nil => exact hgood
  | cons step steps =>
    exact .select hgood (List.cons_ne_nil _ _) (fun e he => (htail.good e he).1) fun e he => (htail.good e he).2

theorem withStages_yields {rule : Rule Expr} (h : Yields WellFormed rule) :
    Yields WellFormed (behind rule (withStages expr)) := by
  intro s x rest hread
  obtain ⟨base, r, hbase, hextend⟩ := behind_eq_some_iff.mp hread
  obtain ⟨stages, hstages, rfl⟩ := withStages_eq_ok_iff.mp hextend
  obtain ⟨hgood, htakes, hr⟩ := h _ _ _ hbase
  have htail := parts_yields (fun _ _ => stageMark_takes) (functionReference_yields hexpr) hstages
  refine ⟨?_, htakes.suffix htail.isSuffix, htail.unspaced hr⟩
  cases stages with
  | nil => exact hgood
  | cons stage stages =>
    exact .pipe hgood (List.cons_ne_nil _ _) (fun e he => (htail.good e he).1) fun e he => (htail.good e he).2

theorem ternaryRule_yields {rule : Rule Expr} (h : Yields WellFormed rule) :
    Yields WellFormed (ternaryRule rule expr) := by
  intro s x rest hread
  obtain ⟨condition, r, hcondition, hread⟩ := ternaryRule_eq_some_iff.mp hread
  obtain ⟨hgood, htakes, hr⟩ := h _ _ _ hcondition
  rcases hread with ⟨-, rfl, rfl⟩ | ⟨r₁, yes, r₂, r₃, no, hmark, hyes, hcolon, hno, rfl⟩
  · exact ⟨hgood, htakes, hr⟩
  · obtain ⟨hmark, -⟩ := symbol?_takes (by decide) hmark
    obtain ⟨hyesGood, hyes, -⟩ := hexpr _ _ _ hyes
    obtain ⟨hcolon, -⟩ := symbol?_takes (by decide) hcolon
    obtain ⟨hnoGood, hno, hrest⟩ := hexpr _ _ _ hno
    exact ⟨.ternary hgood hyesGood hnoGood,
      (((htakes.trans hmark).trans hyes).trans hcolon).trans hno, hrest⟩

theorem loosen_yields (k : Nat) {tighter : Rule Expr} (h : Yields WellFormed tighter) :
    Yields WellFormed (loosen expr k tighter) := by
  unfold loosen
  split
  · exact withSteps_yields hexpr h
  · exact withStages_yields hexpr h
  · exact ternaryRule_yields hexpr h
  · exact level_yields _ h
  · exact level_yields _ h
  · exact negatable_yields h
  all_goals exact level_yields _ h

theorem parenthesized_yields : Yields WellFormed (parenthesized expr) := by
  intro s x rest hread
  obtain ⟨r, r', hopen, hinner, hclose⟩ := parenthesized_eq_some_iff.mp hread
  obtain ⟨hopen, -⟩ := symbol?_takes (by decide) hopen
  obtain ⟨hgood, hinner, -⟩ := hexpr _ _ _ hinner
  obtain ⟨hclose, hrest⟩ := symbol?_takes (by decide) hclose
  exact ⟨hgood, (hopen.trans hinner).trans hclose, hrest⟩

theorem basic_yields (hprimary : Yields WellFormed primary) : Yields WellFormed (basic primary expr) :=
  orElse_yields (listLiteral_stays expr) (listLiteral_yields hexpr) <|
    orElse_yields (mapLiteral_stays expr) (mapLiteral_yields hexpr) <|
      orElse_yields literal_stays literal_yields (named_yields hexpr hprimary)

theorem ruleOf_yields (hprimary : Yields WellFormed primary) (k : Nat) :
    Yields WellFormed (ruleOf primary expr k) := by
  induction k with
  | zero =>
    exact orElse_yields (parenthesized_stays expr) (parenthesized_yields hexpr) (basic_yields hexpr hprimary)
  | succ k ih => exact loosen_yields hexpr k ih

end

theorem upTo_yields (n : Nat) :
    Yields WellFormed (primaryUpTo n) ∧ Yields WellFormed (expressionUpTo n) := by
  induction n with
  | zero => exact ⟨nofun, nofun⟩
  | succ n ih =>
    refine ⟨fun s x rest h => ?_, fun s x rest h => ?_⟩
    · rw [primaryUpTo_succ] at h
      exact ruleOf_yields ih.2 ih.1 2 s x rest h
    · rw [expressionUpTo_succ] at h
      exact ruleOf_yields ih.2 ih.1 11 s x rest h

theorem expression_yields : Yields WellFormed expression := fun s => (upTo_yields s.length).2 s

end TemplateEngine.Grammar
