import Focal.Proofs.Eval.Relation

/-!
# Logs of hosts

`Host.logged` writes down what a host is asked for, call by call and lookup by lookup.  Its runs are
those of the host with a log beside the state: leaving the log out gives the same results, errors
and states, and the same runs without a result (`Host.run_logged`).  So whatever has the same
outcome for every host also asks every host for the same things in the same order.
-/

namespace Focal

variable {σ ι : Type}

/-- What a host is asked for. -/
inductive HostEvent (ι : Type) where
  /-- The results of calling one of its functions. -/
  | call (handle : ι) (arguments : List (Value ι))
  /-- What one of its containers binds a name to. -/
  | lookup (handle : ι) (name : String)

/-- The state of a host with a log in front of it. -/
abbrev Logged (σ ι : Type) :=
  List (HostEvent ι) × σ

/-- A reaction of a host that also has a log, which it does not touch. -/
def Reaction.besideLog {α : Type} : Reaction σ ι α → Reaction (Logged σ ι) ι α
  | done result => done result
  | read next => read fun (_, state) => (next state).besideLog
  | write state next => read fun (log, _) => write (log, state) next.besideLog
  | allocate next => allocate fun identity => (next identity).besideLog
  | call target arguments next => call target arguments fun answer => (next answer).besideLog
  | lookup target name next => lookup target name fun answer => (next answer).besideLog

/-- A reaction behind a new entry of the log. -/
def Reaction.behindEvent {α : Type} (event : HostEvent ι) (reaction : Reaction σ ι α) :
    Reaction (Logged σ ι) ι α :=
  read fun (log, state) => write (log ++ [event], state) reaction.besideLog

/-- A host that writes down every call and every lookup it is asked for, in order. -/
def Host.logged (host : Host σ ι) : Host (Logged σ ι) ι where
  call handle arguments := (host.call handle arguments).behindEvent (.call handle arguments)
  find handle name := (host.find handle name).behindEvent (.lookup handle name)
  mapStep handle context value := (host.mapStep handle context value).besideLog
  spliceStep handle context value := (host.spliceStep handle context value).besideLog
  modifyStep handle context := (host.modifyStep handle context).besideLog

/-- A world without the log. -/
def World.withoutLog (world : World (Logged σ ι)) : World σ :=
  { host := world.host.2, allocated := world.allocated }

/-! ## Computations without their log -/

/-- A computation beside a log is another one when the log is left out. -/
def Erases {α : Type} (logged : Run (Logged σ ι) α) (plain : Run σ α) : Prop :=
  ∀ world, (logged world).map (Prod.map id World.withoutLog) = plain world.withoutLog

namespace Erases

variable {α β : Type}

theorem pure (value : α) :
    Erases (Pure.pure value : Run (Logged σ ι) α) (Pure.pure value : Run σ α) :=
  fun _ => rfl

theorem bind {logged : Run (Logged σ ι) α} {plain : Run σ α} (first : Erases logged plain)
    {loggedNext : α → Run (Logged σ ι) β} {plainNext : α → Run σ β}
    (next : ∀ value, Erases (loggedNext value) (plainNext value)) :
    Erases (logged >>= loggedNext) (plain >>= plainNext) := by
  intro world
  have erased := first world
  simp only [Bind.bind, StateT.bind, ← erased]
  cases logged world with
  | none => rfl
  | some found =>
      rcases found with ⟨value, after⟩
      exact next value after

end Erases

/-- Leaving the log out, as a relation between computations. -/
def erasure : RunRelation (Logged σ ι) σ where
  Relates := Erases
  pure := Erases.pure
  bind first next := first.bind next
  allocate _ := rfl

/-! ## Runs without their log -/

/-- Answers beside a log are others when the log is left out. -/
abbrev AnswersErase (logged : Answers (Logged σ ι) ι) (plain : Answers σ ι) : Prop :=
  erasure.RelatesAnswers logged plain

namespace AnswersErase

variable {logged : Answers (Logged σ ι) ι} {plain : Answers σ ι}

theorem react (erase : AnswersErase logged plain) {α : Type} (reaction : Reaction σ ι α) :
    Erases (logged.react reaction.besideLog) (plain.react reaction) := by
  induction reaction with
  | done result => exact Erases.pure result
  | read next ih => exact fun world => ih _ world
  | write state next ih => exact fun world => ih { world with host := (world.host.1, state) }
  | allocate next ih =>
      exact fun world => ih _ { world with allocated := world.allocated + 1 }
  | call target arguments next ih =>
      exact Erases.bind (RunRelation.RelatesAnswers.call erase target arguments) ih
  | lookup target name next ih =>
      exact Erases.bind (RunRelation.RelatesAnswers.lookup erase target name) ih

theorem react_behindEvent (erase : AnswersErase logged plain) {α : Type} (event : HostEvent ι)
    (reaction : Reaction σ ι α) :
    Erases (logged.react (reaction.behindEvent event)) (plain.react reaction) :=
  fun world => erase.react reaction { world with host := (world.host.1 ++ [event], world.host.2) }

theorem hosts (erase : AnswersErase logged plain) (host : Host σ ι) :
    erasure.RelatesHosts host.logged logged host plain where
  call _ _ := erase.react_behindEvent _ _
  find _ _ := erase.react_behindEvent _ _
  mapStep _ _ _ := erase.react _
  spliceStep _ _ _ := erase.react _
  modifyStep _ _ := erase.react _

end AnswersErase

theorem Host.answers_erase (host : Host σ ι) (depth : Nat) :
    AnswersErase (host.logged.answers depth) (host.answers depth) := by
  induction depth with
  | zero =>
      refine ⟨fun _ _ _ => rfl, fun container name => ?_⟩
      cases container with
      | bindings entries => exact Erases.pure _
      | native name handle => exact fun _ => rfl
  | succ depth ih =>
      constructor
      · intro callable arguments
        cases callable with
        | native name handle => exact (ih.hosts host).call handle arguments
        | closure body receiver => exact RunRelation.results_related ih (ih.hosts host) body _
      · intro container name
        cases container with
        | bindings entries => exact Erases.pure _
        | native _ handle => exact (ih.hosts host).find handle name

/-- A run of a host that keeps a log is the run of the host, but for the log. -/
theorem Host.run_logged (host : Host σ ι) (depth : Nat) (pipeline : Pipeline ι (Value ι))
    (receiver : Value ι) :
    Erases (host.logged.run depth pipeline receiver) (host.run depth pipeline receiver) :=
  have answersErase := host.answers_erase depth
  RunRelation.results_related answersErase (answersErase.hosts host) pipeline receiver

end Focal
