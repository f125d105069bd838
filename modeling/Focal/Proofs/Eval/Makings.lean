import Focal.Proofs.Eval.Courses

/-!
# Makings

Carrying out a course moves on to what is left of it (`Course.Moves`) until it ends (`Course.Ends`),
and on the way comes to the courses of the parts that it requests (`Course.Comes`).  Identities are
made there: by a block step, by a program that makes a closure of a pipeline, or by the host.  Each
of these makings has a moment, the number of identities made before it, and moments only grow
(`Course.Comes.allocated_le`).  Of two makings in the same course one comes later
(`Course.Makes.eq_or_makesThen`), and its moment is later too.  So a making is known by its moment
(`Course.Makes.unique`).
-/

namespace Focal

variable {σ ι α β : Type}

namespace Course

/-- Carrying out a course moves on to what is left of it. -/
inductive Moves (host : Host σ ι) : Course σ ι α → World σ → Course σ ι α → World σ → Prop
  | read {next : σ → Course σ ι α} {world : World σ} :
      Moves host (.read next) world (next world.host) world
  | write {state : σ} {next : Course σ ι α} {world : World σ} :
      Moves host (.write state next) world next { world with host := state }
  | allocate {next : Identity → Course σ ι α} {world : World σ} :
      Moves host (.allocate next) world (next world.allocated)
        { world with allocated := world.allocated + 1 }
  | close {body : Pipeline ι (Value ι)} {receiver : Value ι} {next : Value ι → Course σ ι α}
      {world : World σ} :
      Moves host (.close body receiver next) world
        (next (.callable world.allocated (.closure body receiver)))
        { world with allocated := world.allocated + 1 }
  | answer {depth : Nat} {part : Activity ι} {next : part.Result → Course σ ι α}
      {world between : World σ} {answer : part.Result}
      (ended : part.evaluate host depth world = some (answer, between)) :
      Moves host (.request depth part next) world (next answer) between

/-- Carrying out a course from a world moves on until it is done. -/
inductive Ends (host : Host σ ι) (result : α) (after : World σ) :
    Course σ ι α → World σ → Prop
  | done : Ends host result after (.done result) after
  | move {course next : Course σ ι α} {world between : World σ}
      (moves : course.Moves host world next between) (ends : Ends host result after next between) :
      Ends host result after course world

/-- Carrying out a course from a world comes to a course in another one: to what is left of it, or
of a part that it requests. -/
inductive Comes (host : Host σ ι) :
    {α β : Type} → Course σ ι α → World σ → Course σ ι β → World σ → Prop
  | here {α : Type} {course : Course σ ι α} {world : World σ} : Comes host course world course world
  | move {α β : Type} {course next : Course σ ι α} {rest : Course σ ι β}
      {world between stage : World σ} (moves : course.Moves host world next between)
      (comes : Comes host next between rest stage) : Comes host course world rest stage
  | inside {α β : Type} {depth : Nat} {part : Activity ι} {next : part.Result → Course σ ι α}
      {rest : Course σ ι β} {world stage : World σ}
      (comes : Comes host (part.course host depth) world rest stage) :
      Comes host (.request depth part next) world rest stage

variable {host : Host σ ι} {course next : Course σ ι α} {rest : Course σ ι β}
  {world between stage after : World σ} {result : α}

/-! ## Moves -/

theorem Moves.computation_eq (moves : course.Moves host world next between) :
    course.computation host world = next.computation host between := by
  cases moves with
  | answer ended => exact Run.bind_of_eq_some ended
  | _ => rfl

theorem Moves.requests {depth : Nat} {part : Activity ι}
    (moves : course.Moves host world next between) (requests : next.Requests depth part) :
    course.Requests depth part := by
  cases moves with
  | read => exact .read _ requests
  | write => exact .write requests
  | allocate => exact .allocate _ requests
  | close => exact .close _ requests
  | answer _ => exact .behind _ requests

theorem Moves.unique {other : Course σ ι α} {otherBetween : World σ}
    (moves : course.Moves host world next between)
    (movesToo : course.Moves host world other otherBetween) :
    next = other ∧ between = otherBetween := by
  cases moves with
  | answer ended =>
      cases movesToo with
      | answer endedToo =>
          obtain ⟨rfl, rfl⟩ := Prod.mk.inj (Option.some.inj (ended.symm.trans endedToo))
          exact ⟨rfl, rfl⟩
  | _ => cases movesToo; exact ⟨rfl, rfl⟩

theorem computation_eq_some_iff :
    course.computation host world = some (result, after) ↔ Ends host result after course world := by
  constructor
  · intro ended
    induction course generalizing world with
    | done =>
        cases ended
        exact .done
    | stuck => cases ended
    | read next ih => exact .move .read (ih _ ended)
    | write state next ih => exact .move .write (ih ended)
    | allocate next ih => exact .move .allocate (ih _ ended)
    | close body receiver next ih => exact .move .close (ih _ ended)
    | request depth part next ih =>
        obtain ⟨answer, between, answered, followed⟩ := Run.bind_eq_some_iff.mp ended
        exact .move (.answer answered) (ih answer followed)
  · intro ends
    induction ends with
    | done => rfl
    | move moves _ ih => exact moves.computation_eq.trans ih

theorem Comes.trans {γ : Type} {last : Course σ ι γ} {final : World σ}
    (comes : course.Comes host world rest stage) (comesOn : rest.Comes host stage last final) :
    course.Comes host world last final := by
  induction comes with
  | here => exact comesOn
  | move moves _ ih => exact .move moves (ih comesOn)
  | inside _ ih => exact .inside (ih comesOn)

theorem Moves.ends (moves : course.Moves host world next between)
    (ends : Ends host result after course world) : Ends host result after next between := by
  cases ends with
  | done => cases moves
  | move movesToo ends =>
      obtain ⟨rfl, rfl⟩ := movesToo.unique moves
      exact ends

end Course

theorem Activity.evaluate_eq_some_iff {host : Host σ ι} {depth : Nat} {part : Activity ι}
    {world after : World σ} {answer : part.Result} :
    part.evaluate host depth world = some (answer, after) ↔
      Course.Ends host answer after (part.course host depth) world := by
  rw [Activity.evaluate_eq, Course.computation_eq_some_iff]

/-! ## Numbers of identities -/

/-- When a part of a run has ended, there are no fewer identities than before. -/
def Activity.Counts (host : Host σ ι) (depth : Nat) (part : Activity ι) : Prop :=
  ∀ world answer after, part.evaluate host depth world = some (answer, after) →
    world.allocated ≤ after.allocated

section Counts

variable {host : Host σ ι} {course next : Course σ ι α} {rest : Course σ ι β}
  {world between stage after : World σ} {result : α}

theorem Course.Moves.allocated_le_of_parts
    (parts : ∀ depth part, course.Requests depth part → part.Counts host depth)
    (moves : course.Moves host world next between) : world.allocated ≤ between.allocated := by
  cases moves with
  | read | write => exact Nat.le_refl _
  | allocate | close => exact Nat.le_succ _
  | answer ended => exact parts _ _ .here _ _ _ ended

theorem Course.Ends.allocated_le_of_parts
    (parts : ∀ depth part, course.Requests depth part → part.Counts host depth)
    (ends : Ends host result after course world) : world.allocated ≤ after.allocated := by
  induction ends with
  | done => exact Nat.le_refl _
  | move moves _ ih =>
      exact Nat.le_trans (moves.allocated_le_of_parts parts)
        (ih fun depth part requests => parts depth part (moves.requests requests))

theorem Activity.counts (host : Host σ ι) (depth : Nat) (part : Activity ι) :
    part.Counts host depth :=
  Activity.induction host (fun _ _ parts _ _ _ ended =>
    (Activity.evaluate_eq_some_iff.mp ended).allocated_le_of_parts parts) depth part

namespace Course

theorem Moves.allocated_le (moves : course.Moves host world next between) :
    world.allocated ≤ between.allocated :=
  moves.allocated_le_of_parts fun depth part _ => part.counts host depth

theorem Ends.allocated_le (ends : Ends host result after course world) :
    world.allocated ≤ after.allocated :=
  ends.allocated_le_of_parts fun depth part _ => part.counts host depth

theorem Comes.allocated_le (comes : course.Comes host world rest stage) :
    world.allocated ≤ stage.allocated := by
  induction comes with
  | here => exact Nat.le_refl _
  | move moves _ ih => exact Nat.le_trans moves.allocated_le ih
  | inside _ ih => exact ih

/-- What a course that ends comes to ends too, and then no more has been made than at the end of the
course. -/
theorem Comes.exists_ends (comes : course.Comes host world rest stage)
    (ends : Ends host result after course world) :
    ∃ restResult restAfter, Ends host restResult restAfter rest stage ∧
      restAfter.allocated ≤ after.allocated := by
  induction comes generalizing after with
  | here => exact ⟨result, after, ends, Nat.le_refl _⟩
  | move moves _ ih => exact ih (moves.ends ends)
  | inside _ ih =>
      cases ends with
      | move moves ends =>
          cases moves with
          | answer ended =>
              obtain ⟨restResult, restAfter, restEnds, le⟩ :=
                ih (Activity.evaluate_eq_some_iff.mp ended)
              exact ⟨restResult, restAfter, restEnds, Nat.le_trans le ends.allocated_le⟩

end Course

end Counts

/-! ## Makings and their moments -/

/-- The making of an identity, with the world in which it is made. -/
inductive Making (σ ι : Type) where
  /-- A closure is made of a pipeline on a receiver. -/
  | closure (body : Pipeline ι (Value ι)) (receiver : Value ι) (world : World σ)
  /-- The host makes an identity. -/
  | host (world : World σ)

/-- The number of identities made before. -/
def Making.moment : Making σ ι → Identity
  | closure _ _ world | host world => world.allocated

namespace Course

/-- The making that a course starts with. -/
def making? (world : World σ) : Course σ ι α → Option (Making σ ι)
  | close body receiver _ => some (.closure body receiver world)
  | allocate _ => some (.host world)
  | _ => none

/-- Carrying out a course from a world, an identity is made. -/
def Makes (host : Host σ ι) (course : Course σ ι α) (world : World σ)
    (making : Making σ ι) : Prop :=
  ∃ (β : Type) (rest : Course σ ι β) (stage : World σ),
    course.Comes host world rest stage ∧ rest.making? stage = some making

/-- Carrying out a course from a world, an identity is made, and later another one: when the course
has moved on from the first making, or has a part behind it in which that was. -/
inductive MakesThen (host : Host σ ι) (course : Course σ ι α) (world : World σ)
    (earlier later : Making σ ι) : Prop
  | next {β : Type} {rest next : Course σ ι β} {stage between : World σ}
      (comes : course.Comes host world rest stage) (starts : rest.making? stage = some earlier)
      (moves : rest.Moves host stage next between) (makes : next.Makes host between later)
  | behind {β : Type} {depth : Nat} {part : Activity ι} {next : part.Result → Course σ ι β}
      {stage between : World σ} {answer : part.Result}
      (comes : course.Comes host world (.request depth part next) stage)
      (inside : (part.course host depth).Makes host stage earlier)
      (ended : part.evaluate host depth stage = some (answer, between))
      (makes : (next answer).Makes host between later)

variable {host : Host σ ι} {course next : Course σ ι α} {rest : Course σ ι β}
  {world between stage : World σ} {making other : Making σ ι}

theorem moment_eq (starts : course.making? world = some making) :
    making.moment = world.allocated := by
  cases course <;> cases starts <;> rfl

/-- Moving on from a making, it is over. -/
theorem Moves.moment_lt (moves : course.Moves host world next between)
    (starts : course.making? world = some making) : making.moment < between.allocated := by
  cases moves with
  | allocate | close =>
      cases starts
      exact Nat.lt_succ_self _
  | _ => cases starts

theorem Makes.le_moment (makes : course.Makes host world making) :
    world.allocated ≤ making.moment := by
  obtain ⟨_, rest, stage, comes, starts⟩ := makes
  exact moment_eq starts ▸ comes.allocated_le

theorem Makes.moment_lt {depth : Nat} {part : Activity ι} {answer : part.Result}
    (makes : (part.course host depth).Makes host world making)
    (ended : part.evaluate host depth world = some (answer, between)) :
    making.moment < between.allocated := by
  obtain ⟨_, rest, stage, comes, starts⟩ := makes
  obtain ⟨_, restAfter, restEnds, le⟩ := comes.exists_ends (Activity.evaluate_eq_some_iff.mp ended)
  cases restEnds with
  | done => cases starts
  | move moves ends =>
      exact Nat.lt_of_lt_of_le (moves.moment_lt starts) (Nat.le_trans ends.allocated_le le)

/-- A later making has a later moment. -/
theorem MakesThen.moment_lt (makesThen : course.MakesThen host world making other) :
    making.moment < other.moment := by
  cases makesThen with
  | next _ starts moves makes => exact Nat.lt_of_lt_of_le (moves.moment_lt starts) makes.le_moment
  | behind _ inside ended makes => exact Nat.lt_of_lt_of_le (inside.moment_lt ended) makes.le_moment

/-- What is made in turn on the way of a course is made in turn in the course. -/
theorem Comes.makesThen (comes : course.Comes host world rest stage)
    (makesThen : rest.MakesThen host stage making other) :
    course.MakesThen host world making other := by
  cases makesThen with
  | next comesOn starts moves makes => exact .next (comes.trans comesOn) starts moves makes
  | behind comesOn inside ended makes => exact .behind (comes.trans comesOn) inside ended makes

/-- Two makings in a course are one making, or one is later than the other. -/
theorem Makes.eq_or_makesThen (makes : course.Makes host world making)
    (makesOther : course.Makes host world other) :
    making = other ∨ course.MakesThen host world making other ∨
      course.MakesThen host world other making := by
  obtain ⟨_, rest, stage, comes, starts⟩ := makes
  obtain ⟨_, otherRest, otherStage, comesOther, startsOther⟩ := makesOther
  -- The two ways go on together until one of them ends, or goes into a part that the other one has
  -- behind it.
  induction comes with
  | here =>
      cases comesOther with
      | here => exact .inl (Option.some.inj (starts.symm.trans startsOther))
      | move moves comesOther =>
          exact .inr (.inl (.next .here starts moves ⟨_, _, _, comesOther, startsOther⟩))
      | inside _ => cases starts
  | move moves comes ih =>
      cases comesOther with
      | here => exact .inr (.inr (.next .here startsOther moves ⟨_, _, _, comes, starts⟩))
      | move movesToo comesOther =>
          obtain ⟨rfl, rfl⟩ := moves.unique movesToo
          have lift := Comes.move moves .here
          exact (ih starts comesOther).imp_right (Or.imp lift.makesThen lift.makesThen)
      | inside comesOther =>
          cases moves with
          | answer ended =>
              exact .inr (.inr (.behind .here ⟨_, _, _, comesOther, startsOther⟩ ended
                ⟨_, _, _, comes, starts⟩))
  | inside comes ih =>
      cases comesOther with
      | here => cases startsOther
      | move moves comesOther =>
          cases moves with
          | answer ended =>
              exact .inr (.inl (.behind .here ⟨_, _, _, comes, starts⟩ ended
                ⟨_, _, _, comesOther, startsOther⟩))
      | inside comesOther =>
          exact (ih starts comesOther).imp_right
            (Or.imp (Comes.inside .here).makesThen (Comes.inside .here).makesThen)

/-- A making is known by its moment. -/
theorem Makes.unique (makes : course.Makes host world making)
    (makesOther : course.Makes host world other)
    (sameMoment : making.moment = other.moment) : making = other := by
  obtain same | earlier | later := makes.eq_or_makesThen makesOther
  · exact same
  · exact absurd sameMoment (Nat.ne_of_lt earlier.moment_lt)
  · exact absurd sameMoment (Nat.ne_of_gt later.moment_lt)

end Course

end Focal
