/-
  TemplateEngine.Proofs.Rendering.Iterations — the rounds of a loop, each on its own.

  A loop hands one scope and one writer from round to round. The scope comes back from every
  round as it was, so each round starts in the scope before the loop with one frame more,
  whatever the rounds before it have set; they are known to it by the writer only.

  Proved, for every writer:
  - `Value.getElem?_members`: the entries that a loop goes over (`Value.Entry`).
  - `Target.binds_frame`: the frame that a round starts with binds the variables of the
    loop, and the loop's state over them, and nothing else.
  - `Run.rounds_inTurn`: the rounds are the body in these scopes, one after the other, up
    to the first failure.
  - `written_sinkAfter`: rounds that succeed write what each of them writes by itself.
  - `loop_independent`: all of it for a loop in a template.
-/

import TemplateEngine.Proofs.Rendering.Cutoff
import TemplateEngine.Proofs.Rendering.Joined

namespace TemplateEngine

/-! ## What a loop goes over -/

/-- What a loop over the value comes to in a round, and its key: an element under its index,
    the value of an entry, or the value itself where it is no collection. -/
inductive Value.Entry : Value → Nat → Value → Value → Prop
  | element {items : List Value} {i : Nat} {value : Value} :
      items[i]? = some value → Entry (.list items) i (.ofNat i) value
  | entry {entries : Table Value} {i : Nat} {key : String} {value : Value} :
      entries[i]? = some (key, value) → Entry (.map entries) i (.string key) value
  | single {value : Value} : value ≠ .null → (∀ items, value ≠ .list items) →
      (∀ entries, value ≠ .map entries) → Entry value 0 (.int 0) value

theorem Value.getElem?_members (v : Value) (i : Nat) (key value : Value) :
    v.members[i]? = some (key, value) ↔ v.Entry i key value := by
  cases v with
  | null =>
    constructor
    · intro h
      simp [members] at h
    · rintro ⟨⟩
      rename_i hnull _ _
      exact absurd rfl hnull
  | list items =>
    have hmember : (list items).members[i]? = items[i]?.map fun x => (.ofNat i, x) := List.getElem?_mapIdx
    rw [hmember, Option.map_eq_some_iff]
    constructor
    · rintro ⟨x, hx, hentry⟩
      obtain ⟨rfl, rfl⟩ := Prod.mk.inj hentry
      exact .element hx
    · intro h
      cases h with
      | element hx => exact ⟨value, hx, rfl⟩
      | single _ hlist _ => exact absurd rfl (hlist items)
  | map entries =>
    have hmember : (map entries).members[i]? = entries[i]?.map fun e => (.string e.1, e.2) := List.getElem?_map
    rw [hmember, Option.map_eq_some_iff]
    constructor
    · rintro ⟨⟨k, x⟩, hx, hentry⟩
      obtain ⟨rfl, rfl⟩ := Prod.mk.inj hentry
      exact .entry hx
    · intro h
      cases h with
      | entry hx => exact ⟨(_, value), hx, rfl⟩
      | single _ _ hmap => exact absurd rfl (hmap entries)
  | _ =>
    constructor
    · intro h
      obtain ⟨hi, hentry⟩ := List.getElem?_eq_some_iff.mp h
      cases i with
      | zero =>
        cases hentry
        refine .single (fun h => ?_) (fun _ h => ?_) fun _ h => ?_
        all_goals cases h
      | succ i => exact absurd hi (by simp [members])
    · intro h
      cases h
      rfl

/-! ## What a round starts with -/

/-- The scope with one frame over the others. -/
def Scope.inside (scope : Scope) (frame : Frame) : Scope := { scope with inner := frame :: scope.inner }

/-- The variables of a loop; where both have one name it is that of the value. -/
def Target.binding (target : Target) (key value : Value) (name : String) : Option Value :=
  match target with
  | .value valueName => if name = valueName then some value else none
  | .pair keyName valueName =>
    if name = valueName then some value else if name = keyName then some key else none

/-- The frame binds the variables of a loop of `length` rounds in round `index` and, over
    them, the state of the loop, and nothing else. -/
def Target.Binds (target : Target) (index length : Nat) (key value : Value) (frame : Frame) : Prop :=
  ∀ name, Table.get? name frame =
    if name = "loop" then
      some (.map [("index", .ofNat index), ("index1", .ofNat (index + 1)), ("first", .bool (index = 0)),
        ("last", .bool (index = length - 1)), ("length", .ofNat length)])
    else target.binding key value name

def Target.frame (target : Target) (index length : Nat) (member : Value × Value) : Frame :=
  Table.put "loop" (loopState index length) (match target with
    | .value name => Table.put name member.2 []
    | .pair keyName valueName => Table.put valueName member.2 (Table.put keyName member.1 []))

/-- The frames that the rounds of a loop over the value start with. -/
def Target.frames (target : Target) (v : Value) : List Frame :=
  v.members.mapIdx fun i => target.frame i v.members.length

theorem Scope.forRound_eq (scope : Scope) (target : Target) (index length : Nat) (member : Value × Value) :
    scope.forRound target index length member = scope.inside (target.frame index length member) := by
  cases target <;> rfl

theorem loopState_eq {index length : Nat} (h : index < length) :
    loopState index length =
      .map [("index", .ofNat index), ("index1", .ofNat (index + 1)), ("first", .bool (index = 0)),
        ("last", .bool (index = length - 1)), ("length", .ofNat length)] := by
  have hlast : index + 1 = length ↔ index = length - 1 := by omega
  have hfirst : (index == 0) = decide (index = 0) := rfl
  have hend : (index + 1 == length) = decide (index = length - 1) := decide_eq_decide.mpr hlast
  rw [loopState, hfirst, hend]

theorem Target.binds_frame (target : Target) {index length : Nat} (h : index < length) (key value : Value) :
    target.Binds index length key value (target.frame index length (key, value)) := by
  intro name
  unfold frame
  rw [Table.get?_put, loopState_eq h]
  by_cases hloop : name = "loop"
  · rw [if_pos hloop, if_pos hloop.symm]
  rw [if_neg hloop, if_neg (Ne.symm hloop)]
  cases target with
  | value valueName =>
    rw [binding, Table.get?_put, Table.get?]
    simp only [eq_comm]
  | pair keyName valueName =>
    rw [binding, Table.get?_put, Table.get?_put, Table.get?]
    simp only [eq_comm]

theorem Target.frames_of_entries (target : Target) (v : Value) :
    (∀ i frame, (target.frames v)[i]? = some frame →
      ∃ key value, v.Entry i key value ∧ target.Binds i (target.frames v).length key value frame) ∧
    ∀ i key value, v.Entry i key value → i < (target.frames v).length := by
  have hlength : (target.frames v).length = v.members.length := List.length_mapIdx
  rw [hlength]
  constructor
  · intro i frame hframe
    rw [frames, List.getElem?_mapIdx, Option.map_eq_some_iff] at hframe
    obtain ⟨⟨key, value⟩, hmember, rfl⟩ := hframe
    obtain ⟨hi, -⟩ := List.getElem?_eq_some_iff.mp hmember
    exact ⟨key, value, (v.getElem?_members i key value).mp hmember, target.binds_frame hi key value⟩
  · intro i key value hentry
    obtain ⟨hi, -⟩ := List.getElem?_eq_some_iff.mp ((v.getElem?_members i key value).mpr hentry)
    exact hi

/-! ## One round after the other -/

variable {σ : Type}

/-- The writer behind runs that start in these scopes, one after the other. -/
def sinkAfter (body : Run σ → Outcome σ) (sink : σ) (scopes : List Scope) : σ :=
  scopes.foldl (fun sink scope => (body { scope, sink }).run.sink) sink

/-- None of these runs fails. -/
def AllSucceed (body : Run σ → Outcome σ) : List Scope → σ → Prop
  | [], _ => True
  | scope :: rest, sink =>
    (body { scope, sink }).failure = none ∧ AllSucceed body rest (body { scope, sink }).run.sink

/-- The outcome of going through the scopes: the writer behind all of the runs if none fails,
    and behind the first one that does, with its failure. -/
structure InTurn (body : Run σ → Outcome σ) (scopes : List Scope) (run : Run σ) (o : Outcome σ) : Prop where
  done : AllSucceed body scopes run.sink → o = { run := { run with sink := sinkAfter body run.sink scopes } }
  failed : ∀ earlier scope later e, scopes = earlier ++ scope :: later → AllSucceed body earlier run.sink →
    (body { scope, sink := sinkAfter body run.sink earlier }).failure = some e →
      o = { run := { run with sink := (body { scope, sink := sinkAfter body run.sink earlier }).run.sink },
            failure := some e }

namespace InTurn

variable {body : Run σ → Outcome σ}

theorem nil (run : Run σ) : InTurn body [] run { run } where
  done _ := rfl
  failed earlier scope later e hscopes := by simp at hscopes

theorem cons {scope : Scope} {rest : List Scope} {run : Run σ} {o : Outcome σ} {next : Run σ → Outcome σ}
    (ho : o = { run := { run with sink := (body { scope, sink := run.sink }).run.sink },
                failure := (body { scope, sink := run.sink }).failure })
    (hnext : InTurn body rest o.run (next o.run)) : InTurn body (scope :: rest) run (o.andThen next) := by
  subst ho
  unfold Outcome.andThen
  cases hfailure : (body { scope, sink := run.sink }).failure with
  | none =>
    refine ⟨fun hall => hnext.done hall.2, fun earlier failing later e hscopes hall hfails => ?_⟩
    cases earlier with
    | nil =>
      obtain ⟨rfl, -⟩ := List.cons.inj hscopes
      exact absurd (hfailure.symm.trans hfails) nofun
    | cons first earlier =>
      obtain ⟨rfl, hrest⟩ := List.cons.inj hscopes
      exact hnext.failed earlier failing later e hrest hall.2 hfails
  | some e' =>
    refine ⟨fun hall => ?_, fun earlier failing later e hscopes hall hfails => ?_⟩
    · exact absurd (hfailure.symm.trans hall.1) nofun
    cases earlier with
    | nil =>
      obtain ⟨rfl, -⟩ := List.cons.inj hscopes
      obtain rfl : e' = e := Option.some.inj (hfailure.symm.trans hfails)
      rfl
    | cons first earlier =>
      obtain ⟨rfl, -⟩ := List.cons.inj hscopes
      exact absurd (hfailure.symm.trans hall.1) nofun

end InTurn

section

variable {body : Run σ → Outcome σ}
  (hbody : ∀ run, Kept (fun _ => True) run.scope (body run).run.scope)
include hbody

theorem Run.round_eq (run : Run σ) (target : Target) (index length : Nat) (member : Value × Value) :
    let start : Run σ := { run with scope := run.scope.inside (target.frame index length member) }
    run.round target index length member body =
      { run := { run with sink := (body start).run.sink }, failure := (body start).failure } := by
  intro start
  have hscope := scope_round hbody run target index length member
  have hround : run.round target index length member body = (body start).mapScope Scope.pop := by
    have hstart : start = { run with scope := run.scope.forRound target index length member } := by
      rw [Scope.forRound_eq]
    rw [hstart]
    rfl
  rw [hround] at hscope ⊢
  generalize body start = o at hscope ⊢
  obtain ⟨⟨scope, sink⟩, failure⟩ := o
  have hpop : scope.pop = run.scope := hscope
  show ({ run := { scope := scope.pop, sink }, failure } : Outcome σ) = _
  rw [hpop]

theorem Run.rounds_inTurn (target : Target) (length index : Nat) (members : List (Value × Value)) (run : Run σ) :
    InTurn body ((members.mapIdx fun i => target.frame (index + i) length).map run.scope.inside) run
      (Run.rounds target length body index members run) := by
  induction members generalizing index run with
  | nil => exact .nil run
  | cons member rest ih =>
    let start : Run σ := { run with scope := run.scope.inside (target.frame index length member) }
    have hround : run.round target index length member body =
        { run := { run with sink := (body start).run.sink }, failure := (body start).failure } :=
      run.round_eq hbody target index length member
    have hindex : (fun i => target.frame (index + (i + 1)) length) =
        fun i => target.frame (index + 1 + i) length := by
      funext i
      rw [Nat.add_right_comm index 1 i, Nat.add_assoc]
    rw [List.mapIdx_cons, List.map_cons, Run.rounds, hindex]
    refine .cons hround ?_
    -- the scope is back as it was, so the frames of the later rounds lie over the same one
    rw [hround]
    exact ih (index + 1) { run with sink := (body start).run.sink }

end

/-! ## What the rounds write -/

namespace Environment

variable (env : Environment) (body : Content)

/-- What the content writes in a scope, to a sink that takes everything. -/
def output (scope : Scope) : ByteArray :=
  (env.renderContent body { scope, sink := ({} : Sink) }).run.sink.written

/-- A sink takes a part of the output, and all of it where there is no limit or no failure. -/
theorem written_output (scope : Scope) (sink : Sink) :
    let o := env.renderContent body { scope, sink }
    ∃ n, o.run.sink.written = sink.written ++ (env.output body scope).extract 0 n ∧
      (sink.room = none ∨ o.failure = none → (env.output body scope).size ≤ n) := by
  obtain ⟨transcript, htranscript⟩ := env.renderContent_transcribed body scope
  have hreplay (sink : Sink) : env.renderContent body { scope, sink } = transcript.replay sink :=
    htranscript Sink sink
  have houtput : env.output body scope = transcript.text.toUTF8 := by
    rw [output, hreplay, (transcript.replay_sink {}).1]
    exact ByteArray.empty_append
  obtain ⟨hsink, hfailure⟩ := transcript.replay_sink sink
  intro o
  rw [show o = transcript.replay sink from hreplay sink, hsink, hfailure, houtput]
  obtain ⟨written, room⟩ := sink
  -- what the sink takes is the output up to its room; a run that does not fail wrote all of it
  cases room with
  | none =>
    refine ⟨transcript.text.toUTF8.size, ?_, fun _ => Nat.le_refl _⟩
    rw [ByteArray.extract_zero_size]
    rfl
  | some n =>
    refine ⟨n, rfl, ?_⟩
    rintro (hroom | hdone)
    · cases hroom
    · refine Decidable.byContradiction fun hfull => ?_
      rw [Sink.write, if_neg (by simpa using hfull)] at hdone
      cases hdone

theorem written_of_success {scope : Scope} {sink : Sink}
    (h : (env.renderContent body { scope, sink }).failure = none) :
    (env.renderContent body { scope, sink }).run.sink.written = sink.written ++ env.output body scope := by
  obtain ⟨n, hwritten, hwhole⟩ := env.written_output body scope sink
  rw [hwritten, extract_of_size_le (hwhole (.inr h))]

/-- The outputs of the body in these scopes, one behind the other. -/
def outputs (scopes : List Scope) : ByteArray := (scopes.map (env.output body)).foldr (· ++ ·) ByteArray.empty

theorem written_sinkAfter {scopes : List Scope} {sink : Sink}
    (h : AllSucceed (env.renderContent body) scopes sink) :
    (sinkAfter (env.renderContent body) sink scopes).written = sink.written ++ env.outputs body scopes := by
  induction scopes generalizing sink with
  | nil => exact ByteArray.append_empty.symm
  | cons scope rest ih =>
    obtain ⟨hfirst, hrest⟩ := h
    calc (sinkAfter (env.renderContent body) sink (scope :: rest)).written
      _ = (env.renderContent body { scope, sink }).run.sink.written ++ env.outputs body rest := ih hrest
      _ = sink.written ++ env.output body scope ++ env.outputs body rest := by
        rw [env.written_of_success body hfirst]
      _ = sink.written ++ env.outputs body (scope :: rest) := ByteArray.append_assoc

theorem room_sinkAfter {scopes : List Scope} {sink : Sink} (h : sink.room = none) :
    (sinkAfter (env.renderContent body) sink scopes).room = none := by
  induction scopes generalizing sink with
  | nil => exact h
  | cons scope rest ih => exact ih (env.written_behind body { scope, sink } h).1

theorem renderContent_loop {position : Position} {target : Target} {collection : Expr} {filters : List Expr}
    {σ : Type} [Writer σ] (run : Run σ) {v : Value}
    (hv : (do env.passThrough run.scope (← env.evaluate run.scope collection) filters) = .ok v) :
    InTurn (env.renderContent body) ((target.frames v).map run.scope.inside) run
      (env.renderContent [.loop position target collection filters body] run) := by
  have hloop : env.renderNode env.includeNamed (.loop position target collection filters body) run =
      Run.rounds target v.members.length (env.renderContent body) 0 v.members run := by
    rw [renderNode, hv, ← renderNodes_includeNamed]
    rfl
  have hlast : (env.renderContent [] : Run σ → Outcome σ) = fun run => { run } :=
    funext env.renderContent_nil
  have hturn := Run.rounds_inTurn (env.renderContent_kept body) target v.members.length 0 v.members run
  simp only [Nat.zero_add] at hturn
  rw [renderContent_cons, hloop, hlast, Outcome.andThen_done]
  exact hturn

/-- A loop renders its body for one entry of the value after the other, each time in the
    scope before the loop with one frame over it, which has the variables of the loop and its
    state and nothing that other rounds have set. The outcome is that of these runs up to
    the first failure, and the scope is the one before. What a sink gets is the output of
    each round by itself, in order, and behind it what a failing round has written. -/
theorem loop_independent (position : Position) (target : Target) (collection : Expr) (filters : List Expr)
    (scope : Scope) {v : Value}
    (hv : (do env.passThrough scope (← env.evaluate scope collection) filters) = .ok v) :
    let frames := target.frames v
    let scopes := frames.map scope.inside
    let loop : Content := [.loop position target collection filters body]
    (∀ i frame, frames[i]? = some frame →
      ∃ key value, v.Entry i key value ∧ target.Binds i frames.length key value frame) ∧
    (∀ i key value, v.Entry i key value → i < frames.length) ∧
    (∀ (σ : Type) [Writer σ] (sink : σ),
      InTurn (env.renderContent body) scopes { scope, sink } (env.renderContent loop { scope, sink })) ∧
    ∀ sink : Sink,
      (AllSucceed (env.renderContent body) scopes sink →
        (env.renderContent loop { scope, sink }).run.sink.written = sink.written ++ env.outputs body scopes) ∧
      ∀ earlier failing later e, scopes = earlier ++ failing :: later →
        AllSucceed (env.renderContent body) earlier sink →
          let before := sinkAfter (env.renderContent body) sink earlier
          (env.renderContent body { scope := failing, sink := before }).failure = some e →
            ∃ wrote, (env.renderContent body { scope := failing, sink := before }).run.sink.written =
                before.written ++ wrote ∧
              (env.renderContent loop { scope, sink }).run.sink.written =
                sink.written ++ env.outputs body earlier ++ wrote ∧
              (sink.room = none → wrote = env.output body failing) := by
  intro frames scopes loop
  have hturn (σ : Type) [Writer σ] (sink : σ) :
      InTurn (env.renderContent body) scopes { scope, sink } (env.renderContent loop { scope, sink }) :=
    env.renderContent_loop body { scope, sink } hv
  refine ⟨(target.frames_of_entries v).1, (target.frames_of_entries v).2, hturn, fun sink => ⟨?_, ?_⟩⟩
  · intro hall
    rw [(hturn Sink sink).done hall]
    exact env.written_sinkAfter body hall
  · intro earlier failing later e hscopes hall before hfails
    obtain ⟨n, hwritten, hwhole⟩ := env.written_output body failing before
    refine ⟨(env.output body failing).extract 0 n, hwritten, ?_, fun hroom => ?_⟩
    · rw [(hturn Sink sink).failed earlier failing later e hscopes hall hfails]
      show (env.renderContent body { scope := failing, sink := before }).run.sink.written = _
      rw [hwritten, env.written_sinkAfter body hall]
    · exact extract_of_size_le (hwhole (.inl (env.room_sinkAfter body hroom)))

/-- A round sets a variable that the next one does not find. -/
theorem loop_independent_assignment :
    let body : Content := [.output ⟨17, 1, 18⟩ (.var "y"), .assignment ⟨22, 1, 23⟩ "y" (.var "x"),
      .output ⟨33, 1, 34⟩ (.var "y")]
    let collection : Expr := .list [.literal (.string "a"), .literal (.string "b")]
    let scope : Scope := { caller := [("y", .string "-")] }
    ∃ env : Environment,
      (do env.passThrough scope (← env.evaluate scope collection) []) =
        .ok (.list [.string "a", .string "b"]) ∧
      (env.renderContent [.loop ⟨0, 1, 1⟩ (.value "x") collection [] body]
        ({ scope, sink := {} } : Run Sink)).run.sink.written = "-a-b".toUTF8 := by
  intro body collection scope
  let env : Environment := {}
  have hv : (do env.passThrough scope (← env.evaluate scope collection) []) =
      .ok (.list [.string "a", .string "b"]) := by
    simp only [collection, Environment.evaluate, Environment.evaluateAll, Environment.passThrough]
    rfl
  have hscopes : ((Target.value "x").frames (.list [.string "a", .string "b"])).map scope.inside =
      [scope.inside [("x", .string "a"), ("loop", loopState 0 2)],
        scope.inside [("x", .string "b"), ("loop", loopState 1 2)]] := rfl
  obtain ⟨-, -, -, hsink⟩ := env.loop_independent body ⟨0, 1, 1⟩ (.value "x") collection [] scope hv
  rw [hscopes] at hsink
  have hround (x : String) (index : Nat) (written : ByteArray) :
      let scope' := scope.inside [("x", .string x), ("loop", loopState index 2)]
      env.renderContent body ({ scope := scope', sink := { written } } : Run Sink) =
        { run := { scope := scope'.set "y" (.string x),
                   sink := { written := written ++ "-".toUTF8 ++ x.toUTF8 } } } := by
    intro scope'
    simp only [body, renderContent_eq, renderNodes, renderNode, Environment.evaluate]
    rfl
  have hdone : AllSucceed (env.renderContent body)
      [scope.inside [("x", .string "a"), ("loop", loopState 0 2)],
        scope.inside [("x", .string "b"), ("loop", loopState 1 2)]] ({} : Sink) := by
    refine ⟨?_, ?_, trivial⟩
    · rw [hround]
    · rw [hround, hround]
  refine ⟨env, hv, ((hsink {}).1 hdone).trans ?_⟩
  simp only [outputs, output, List.map_cons, List.map_nil, List.foldr_cons, List.foldr_nil, hround]
  rfl

end Environment

end TemplateEngine
