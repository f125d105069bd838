import Focal.CommandLine.Prelude
import Focal.Proofs.Eval.Knowledge

/-!
# Identities of closures

A program around the language has pipelines run, calls values, looks names up, makes closures of
pipelines and values of its own, and goes on with what it gets.  Its course is a session.  In a
session, whatever was not known at first has been made (`Course.Occurs.exists_learnt`), and a making
is known by its moment.  So two closures are equal if and only if they stem from the same making,
whichever way they went since, and a closure that is made is none of those that were there before
(`closure_same_iff`).
-/

namespace Focal

variable {σ ι : Type}

/-! ## Values by their identities -/

/-- The value is a closure of the language. -/
def Value.IsClosure (value : Value ι) : Prop :=
  ∃ identity body receiver, value = .callable identity (.closure body receiver)

theorem Value.same_eq_false {first second : Value ι} {identity : Identity}
    (identified : first.identity? = some identity)
    (differs : second.identity? ≠ some identity) : first.same second = false := by
  have apart {other : Identity} (isOther : second.identity? = some other) :
      (identity == other) = false := by
    refine beq_eq_false_iff_ne.mpr fun sameIdentity => differs ?_
    rw [isOther, sameIdentity]
  cases first <;> cases identified <;> cases second <;> first | rfl | exact apart rfl

theorem Making.identity?_eq {making : Making σ ι} {value : Value ι}
    (yields : making.Yields value) : value.identity? = some making.moment := by
  cases making with
  | closure body receiver world =>
      obtain rfl := yields
      rfl
  | host world => exact yields

/-! ## Sessions -/

/-- What a program around the language does, until it ends with the values it holds. -/
abbrev Session (σ ι : Type) := Course σ ι (List (Value ι))

/-- A value exists at a stage of a session. -/
inductive Session.Occurs (host : Host σ ι) (holds : σ → Value ι → Prop) (session : Session σ ι)
    (world : World σ) : Value ι → World σ → Prop
  /-- The state of the host holds it. -/
  | held {β : Type} {rest : Course σ ι β} {stage : World σ} {value : Value ι}
      (comes : session.Comes host world rest stage) (held : holds stage.host value) :
      Occurs host holds session world value stage
  /-- A part of a run works on it. -/
  | given {β : Type} {depth : Nat} {part : Activity ι} {next : part.Result → Course σ ι β}
      {stage : World σ} {value : Value ι}
      (comes : session.Comes host world (.request depth part next) stage)
      (mem : value ∈ part.values) : Occurs host holds session world value stage
  /-- A part of a run comes to it. -/
  | answered {β : Type} {depth : Nat} {part : Activity ι} {next : part.Result → Course σ ι β}
      {stage after : World σ} {answer : part.Result} {value : Value ι}
      (comes : session.Comes host world (.request depth part next) stage)
      (ended : part.evaluate host depth stage = some (answer, after))
      (mem : value ∈ part.resultValues answer) : Occurs host holds session world value after
  /-- It is a closure that has been made. -/
  | made {β : Type} {body : Pipeline ι (Value ι)} {receiver : Value ι}
      {next : Value ι → Course σ ι β} {stage : World σ}
      (comes : session.Comes host world (.close body receiver next) stage) :
      Occurs host holds session world (.callable stage.allocated (.closure body receiver))
        { stage with allocated := stage.allocated + 1 }
  /-- The program holds it at the end. -/
  | kept {values : List (Value ι)} {after : World σ} {value : Value ι}
      (ends : Course.Ends host values after session world) (mem : value ∈ values) :
      Occurs host holds session world value after
  /-- It is in another value. -/
  | component {whole part : Value ι} {stage : World σ}
      (occurs : Occurs host holds session world whole stage) (mem : part ∈ whole.parts) :
      Occurs host holds session world part stage

variable {host : Host σ ι} {holds : σ → Value ι → Prop} {session : Session σ ι}
  {world stage : World σ} {value : Value ι}

theorem Session.Occurs.exists_learnt {known : Value ι → Prop} (hostHonest : host.Honest holds)
    (honest : session.Honest holds id known) (fits : Fits holds known world)
    (occurs : session.Occurs host holds world value stage) :
    ∃ later, Learnt host holds session world known stage later ∧ later value := by
  induction occurs with
  | held comes held =>
      obtain ⟨later, _, learnt, -⟩ := comes.exists_learnt hostHonest honest fits
      exact ⟨later, learnt, learnt.fits.held _ held⟩
  | given comes mem =>
      obtain ⟨later, _, learnt, restHonest⟩ := comes.exists_learnt hostHonest honest fits
      exact ⟨later, learnt, restHonest.1 _ mem⟩
  | answered comes ended mem =>
      obtain ⟨middle, _, first, restHonest⟩ := comes.exists_learnt hostHonest honest fits
      obtain ⟨later, learnt, answerKnown⟩ :=
        Activity.teaches hostHonest _ _ _ _ middle _ first.fits restHonest.1 ended
      exact ⟨later, first.trans learnt fun comesOn => comes.trans (.inside comesOn),
        answerKnown _ mem⟩
  | made comes =>
      obtain ⟨middle, _, first, restHonest⟩ := comes.exists_learnt hostHonest honest fits
      exact ⟨_, first.trans (first.fits.close restHonest.1) comes.trans, .inr rfl⟩
  | kept ends mem =>
      obtain ⟨later, learnt, keptKnown⟩ := ends.exists_learnt_of_parts
        (fun depth part _ => part.teaches hostHonest depth) honest fits
      exact ⟨later, learnt, keptKnown _ mem⟩
  | component _ mem ih =>
      obtain ⟨later, learnt, isKnown⟩ := ih
      exact ⟨later, learnt, learnt.fits.closed.parts _ isKnown _ mem⟩

theorem Session.fits_start (start : ∀ value, holds world.host value → value.identity? = none) :
    Fits holds (fun value : Value ι => value.identity? = none) world where
  closed :=
    { plain := fun _ plain => plain
      parts := fun value plain part mem => by
        rw [Value.parts_eq_nil plain] at mem
        cases mem }
  held := start
  allocated value identity plain identified := by
    cases plain.symm.trans identified

/-- In a session that starts without any value that has an identity, a value with one is what a
making yields. -/
theorem Session.Occurs.exists_making (hostHonest : host.Honest holds)
    (honest : session.Honest holds id (fun value => value.identity? = none))
    (start : ∀ value, holds world.host value → value.identity? = none) {identity : Identity}
    (occurs : session.Occurs host holds world value stage)
    (identified : value.identity? = some identity) :
    identity < stage.allocated ∧
      ∃ making, session.Makes host world making ∧ making.Yields value := by
  obtain ⟨later, learnt, isKnown⟩ := occurs.exists_learnt hostHonest honest (fits_start start)
  refine ⟨learnt.fits.allocated value identity isKnown identified, ?_⟩
  rcases learnt.made value isKnown with plain | made
  · cases plain.symm.trans identified
  · exact made

/-- In an honest session that starts without any value that has an identity, every block step that
is applied is a making, and so is every closure that the program or the host makes of a pipeline.
Of two makings one is later.  What a making yields is unequal to every value that exists when it is
made, and to what a later making yields, also of the same block on the same receiver.  Two closures
are equal if and only if one making yields them. -/
theorem closure_same_iff (hostHonest : host.Honest holds)
    (honest : session.Honest holds id (fun value => value.identity? = none))
    (start : ∀ value, holds world.host value → value.identity? = none) :
    (∀ (β : Type) depth body context (next : Outcome ι → Course σ ι β) stage,
      session.Comes host world (.request depth (.apply (.block body) context) next) stage →
        session.Makes host world (.closure body context.receiver stage) ∧
        (Step.block body).apply host (host.answers depth) context stage =
          some
            ((.ok (),
              context.replace (.callable stage.allocated (.closure body context.receiver))),
              { stage with allocated := stage.allocated + 1 })) ∧
    (∀ (β : Type) body receiver (next : Value ι → Course σ ι β) stage,
      session.Comes host world (.close body receiver next) stage →
        session.Makes host world (.closure body receiver stage) ∧
        Host.close body receiver stage =
          some (.callable stage.allocated (.closure body receiver),
            { stage with allocated := stage.allocated + 1 })) ∧
    (∀ making made, session.Makes host world making → making.Yields made →
      ∀ value stage, session.Occurs host holds world value stage →
        stage.allocated ≤ making.moment → made.same value = false) ∧
    (∀ making other, session.Makes host world making → session.Makes host world other →
      making = other ∨ session.MakesThen host world making other ∨
        session.MakesThen host world other making) ∧
    (∀ earlier later, session.MakesThen host world earlier later →
      ∀ made madeToo, earlier.Yields made → later.Yields madeToo →
        made.same madeToo = false) ∧
    ∀ first second firstStage secondStage, first.IsClosure → second.IsClosure →
      session.Occurs host holds world first firstStage →
        session.Occurs host holds world second secondStage →
          (first.same second = true ↔
            ∃ making, session.Makes host world making ∧ making.Yields first ∧
              making.Yields second) := by
  refine ⟨?_, ?_, ?_, fun _ _ => Course.Makes.eq_or_makesThen, ?_, ?_⟩
  · intro β depth body context next stage comes
    exact ⟨⟨_, _, stage, comes.trans (.inside .here), rfl⟩, by rw [Step.apply]; rfl⟩
  · intro β body receiver next stage comes
    exact ⟨⟨_, _, stage, comes, rfl⟩, rfl⟩
  · intro making made makes yields value stage occurs before
    refine Value.same_eq_false (Making.identity?_eq yields) fun identified => ?_
    have earlier := (occurs.exists_making hostHonest honest start identified).1
    exact absurd before (Nat.not_le_of_lt earlier)
  · intro earlier later makesThen made madeToo yields yieldsToo
    refine Value.same_eq_false (Making.identity?_eq yields) fun identified => ?_
    have sameMoment : later.moment = earlier.moment :=
      Option.some.inj ((Making.identity?_eq yieldsToo).symm.trans identified)
    exact absurd sameMoment (Nat.ne_of_gt makesThen.moment_lt)
  · rintro _ _ firstStage secondStage ⟨identity, body, receiver, rfl⟩
      ⟨other, bodyToo, receiverToo, rfl⟩ occurs occursToo
    constructor
    · intro same
      obtain rfl : identity = other := beq_iff_eq.mp same
      obtain ⟨-, making, makes, yields⟩ := occurs.exists_making hostHonest honest start rfl
      obtain ⟨-, makingToo, makesToo, yieldsToo⟩ :=
        occursToo.exists_making hostHonest honest start rfl
      have moment : some identity = some making.moment := Making.identity?_eq yields
      have momentToo : some identity = some makingToo.moment := Making.identity?_eq yieldsToo
      obtain rfl := makes.unique makesToo (Option.some.inj (moment.symm.trans momentToo))
      exact ⟨making, makes, yields, yieldsToo⟩
    · rintro ⟨making, -, yields, yieldsToo⟩
      exact beq_iff_eq.mpr (Option.some.inj
        ((Making.identity?_eq yields).trans (Making.identity?_eq yieldsToo).symm))

/-- The host of the prelude hands on arguments alone. -/
theorem Prelude.host_honest : Prelude.host.Honest (fun _ _ => False) where
  call function arguments known closed given := by
    have resultsKnown : ∀ value ∈ (function.apply arguments).2, known value := by
      cases function with
      | identity => exact given
      | arguments texts =>
          intro value mem
          obtain ⟨text, -, rfl⟩ := List.mem_map.mp mem
          exact closed.plain _ rfl
      | print | concat | count => exact List.forall_mem_singleton.mpr (closed.plain _ rfl)
    intro depth state _
    exact ⟨fun _ held => held.elim, resultsKnown⟩
  find _ _ _ _ _ := List.forall_mem_nil _
  mapStep _ _ _ _ _ _ currentKnown _ := List.forall_mem_singleton.mpr currentKnown
  spliceStep _ _ _ _ _ _ currentKnown _ := List.forall_mem_singleton.mpr currentKnown
  modifyStep _ _ _ _ given _ := given

/-- Two closures of one block on one receiver, and what a function of the prelude gives back for
them: each stems from a making, and no making yields both. -/
theorem closure_same_iff_returned :
    let pipeline : Pipeline Prelude.Function (Value Prelude.Function) :=
      [.block [.commit], .commit, .block [.commit], .commit]
    let session : Session String Prelude.Function :=
      .allocate fun identity =>
        .request 1 (.run pipeline (Context.fresh .nothing))
          fun (outcome : Outcome Prelude.Function) =>
            .request 1 (.call (.callable identity (.native "identity" .identity)) outcome.2.results)
              fun answer => .done (outcome.2.results ++ resultValues answer)
    let world : World String := { host := "", allocated := 0 }
    let first : Value Prelude.Function := .callable 1 (.closure [.commit] .nothing)
    let second : Value Prelude.Function := .callable 2 (.closure [.commit] .nothing)
    Prelude.host.Honest (fun _ _ => False) ∧
      session.Honest (fun _ _ => False) id (fun value => value.identity? = none) ∧
      session.computation Prelude.host world =
        some ([first, second, first, second], { host := "", allocated := 3 }) ∧
      (∃ making, session.Makes Prelude.host world making ∧ making.Yields first) ∧
      ¬ ∃ making, session.Makes Prelude.host world making ∧ making.Yields first ∧
        making.Yields second := by
  intro pipeline session world first second
  have honest : session.Honest (fun _ _ => False) id (fun value => value.identity? = none) := by
    refine fun identity => ⟨?_, fun later _ grows outcome answered => ?_⟩
    · exact List.forall_mem_append.mpr ⟨List.forall_mem_nil _, Context.known_fresh (.inl rfl)⟩
    · have resultsKnown := (Context.forall_values_iff.mp answered).2.2
      refine ⟨List.forall_mem_cons.mpr
        ⟨grows _ (.inr ⟨rfl, List.forall_mem_nil _⟩), resultsKnown⟩, ?_⟩
      exact fun latest _ growsOn answer returned => List.forall_mem_append.mpr
        ⟨fun value mem => growsOn value (resultsKnown value mem), returned⟩
  have ended : session.computation Prelude.host world =
      some ([first, second, first, second], { host := "", allocated := 3 }) := rfl
  obtain ⟨-, -, -, -, -, sameIff⟩ :=
    @closure_same_iff _ _ _ _ session world Prelude.host_honest honest fun _ held => held.elim
  have kept {value : Value Prelude.Function} (mem : value ∈ [first, second, first, second]) :
      session.Occurs Prelude.host (fun _ _ => False) world value { host := "", allocated := 3 } :=
    .kept (Course.computation_eq_some_iff.mp ended) mem
  refine ⟨Prelude.host_honest, honest, ended, ?_, fun stem => ?_⟩
  · obtain ⟨making, makes, yields, -⟩ := (sameIff first first _ _ ⟨_, _, _, rfl⟩ ⟨_, _, _, rfl⟩
      (kept (by simp)) (kept (by simp))).mp rfl
    exact ⟨making, makes, yields⟩
  · have same := (sameIff first second _ _ ⟨_, _, _, rfl⟩ ⟨_, _, _, rfl⟩
      (kept (by simp)) (kept (by simp))).mpr stem
    cases same

end Focal
