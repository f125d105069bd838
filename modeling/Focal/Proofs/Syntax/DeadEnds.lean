import Focal.Proofs.Syntax.Bodies
import Focal.Proofs.Syntax.Separators
import Focal.Proofs.Syntax.Strings

/-!
# Where reading ends

A text has at most one place at which a point lacks a name (`Site.missingName_unique`), and the
point there is applied to one term.  The grammar is unambiguous for whole texts, so the proof cuts
the text in front of the point.  Only numbers look at what stands behind them, and they end in front
of nothing as they do in front of a point; so what has been read in front of the point derives the
cut text as well (`Reached.exists_front`), whose last term is determined.  Two such places cannot
stand one behind the other, since no text that goes on over the first one can be read
(`Stuck.not_read`).
-/

namespace Focal.Syntax

open Focal.Source Focal.Source.Cursor
open Reading (endsName endsNumber startsMember startsToken)

/-! ## What stands behind a phrase -/

/-- Numbers that end in front of one text end in front of another one too. -/
structure EndsAlike (rest other : List Char) : Prop where
  integer : IntegerEnds rest → IntegerEnds other
  fraction : FractionEnds rest → FractionEnds other
  member : startsMember rest = true → startsMember other = true

theorem EndsAlike.behind {rest other : List Char} (alike : EndsAlike rest other)
    (read : List Char) : EndsAlike (read ++ rest) (read ++ other) := by
  cases read with
  | nil => exact alike
  | cons first read =>
      refine ⟨?_, id, id⟩
      rintro (ends | ⟨beyond, restEq, member⟩)
      · exact .inl ends
      · obtain ⟨rfl, rfl⟩ := List.cons.inj restEq
        refine .inr ⟨read ++ other, rfl, ?_⟩
        cases read with
        | nil => exact alike.member member
        | cons => exact member

/-- A phrase other than a body is derived in front of any text that numbers end in front of
alike. -/
theorem Derives.exists_read {phrase : Phrase} {text rest : List Char}
    (derives : Derives phrase text rest) :
    ∃ read, text = read ++ rest ∧ ∀ other, EndsAlike rest other →
      (∀ body, phrase = .body body → other = []) → Derives phrase (read ++ other) other := by
  induction derives with
  | receiver => exact ⟨_, rfl, fun _ _ _ => .receiver⟩
  | name name notThis => exact ⟨_, rfl, fun _ _ _ => .name name notThis⟩
  | @str content _ _ spells =>
      refine ⟨'"' :: content ++ ['"'], by simp, fun other _ _ => ?_⟩
      simpa using @Derives.str _ _ other spells
  | int run small ends =>
      exact ⟨_, rfl, fun _ alike _ => .int run small (alike.integer ends)⟩
  | float wholeRun fractionRun ends =>
      exact ⟨_, rfl, fun _ alike _ => .float wholeRun fractionRun (alike.fraction ends)⟩
  | @group _ inner _ inside =>
      refine ⟨'(' :: inner ++ [')'], by simp, fun other _ _ => ?_⟩
      simpa using @Derives.group _ _ other inside
  | @block _ inner _ inside =>
      refine ⟨'\x7b' :: inner ++ ['\x7d'], by simp, fun other _ _ => ?_⟩
      simpa using @Derives.block _ _ other inside
  | @call _ _ _ trivia inner _ _ between inside ih =>
      obtain ⟨read, rfl, ih⟩ := ih
      refine ⟨read ++ (trivia ++ '(' :: inner ++ [')']), by simp, fun other alike _ => ?_⟩
      have called := ih (trivia ++ '(' :: inner ++ ')' :: other)
        (by simpa using alike.behind (trivia ++ '(' :: inner ++ [')'])) (by simp)
      simpa using Derives.call called between inside
  | @member _ _ before behind spelled _ _ between within name ih =>
      obtain ⟨read, rfl, ih⟩ := ih
      refine ⟨read ++ (before ++ '.' :: behind ++ spelled), by simp, fun other alike _ => ?_⟩
      have accessed := ih (before ++ '.' :: behind ++ spelled ++ other)
        (by simpa using alike.behind (before ++ '.' :: behind ++ spelled)) (by simp)
      simpa using Derives.member accessed between within name
  | empty around => exact ⟨_, rfl, fun _ _ _ => .empty around⟩
  | @segment _ before _ behind _ leading _ trailing ih =>
      obtain ⟨read, rfl, ih⟩ := ih
      refine ⟨before ++ read ++ behind, by simp, fun other alike _ => ?_⟩
      have inside := ih (behind ++ other) (alike.behind behind) (by simp)
      simpa using Derives.segment leading inside trailing
  | lastSegment _ ih =>
      obtain ⟨read, rfl, ih⟩ := ih
      exact ⟨read, rfl, fun other alike _ => .lastSegment (ih other alike (by simp))⟩
  | semicolon _ _ firstIh othersIh =>
      obtain ⟨others, rfl, othersIh⟩ := othersIh
      obtain ⟨first, rfl, firstIh⟩ := firstIh
      refine ⟨first ++ ';' :: others, by simp, fun other alike _ => ?_⟩
      have separated := firstIh (';' :: (others ++ other)) (alike.behind (';' :: others)) (by simp)
      simpa using Derives.semicolon separated (othersIh other alike (by simp))
  | lastSlot _ ih =>
      obtain ⟨read, rfl, ih⟩ := ih
      exact ⟨read, rfl, fun other alike _ => .lastSlot (ih other alike (by simp))⟩
  | comma _ _ firstIh othersIh =>
      obtain ⟨others, rfl, othersIh⟩ := othersIh
      obtain ⟨first, rfl, firstIh⟩ := firstIh
      refine ⟨first ++ ',' :: others, by simp, fun other alike _ => ?_⟩
      have separated := firstIh (',' :: (others ++ other)) (alike.behind (',' :: others)) (by simp)
      simpa using Derives.comma separated (othersIh other alike (by simp))
  | @blank inner white =>
      refine ⟨inner, by simp, fun other _ isBody => ?_⟩
      obtain rfl := isBody _ rfl
      simpa using Derives.blank white
  | @body _ inner inked inside ih =>
      refine ⟨inner, by simp, fun other _ isBody => ?_⟩
      obtain rfl := isBody _ rfl
      simpa using Derives.body inked inside

theorem Begun.exists_read {begun : Option Term} {text rest : List Char}
    (read : Begun begun text rest) :
    ∃ front, text = front ++ rest ∧ ∀ other, EndsAlike rest other →
      Begun begun (front ++ other) other := by
  cases read with
  | vacant leading => exact ⟨_, rfl, fun _ _ => .vacant leading⟩
  | @term tree before _ behind _ leading derives trailing =>
      obtain ⟨read, rfl, derivesOther⟩ := derives.exists_read
      refine ⟨before ++ read ++ behind, by simp, fun other alike => ?_⟩
      have inside := derivesOther (behind ++ other) (alike.behind behind) (by simp)
      simpa using Begun.term leading inside trailing

theorem SegmentStart.exists_front {source text : List Char} {slots : List Slot}
    {segments : List Segment} (start : SegmentStart source slots segments text) :
    ∃ front, source = front ++ text ∧ ∀ other, EndsAlike text other →
      SegmentStart (front ++ other) slots segments other := by
  induction start with
  | first => exact ⟨[], rfl, fun _ _ => .first⟩
  | semicolon _ derives ih =>
      obtain ⟨front, rfl, startOther⟩ := ih
      obtain ⟨read, rfl, derivesOther⟩ := derives.exists_read
      refine ⟨front ++ (read ++ [';']), by simp, fun other alike => ?_⟩
      have segment := derivesOther (';' :: other) (alike.behind [';']) (by simp)
      have before := startOther (read ++ ';' :: other) (by simpa using alike.behind (read ++ [';']))
      simpa using before.semicolon segment
  | comma _ derives ih =>
      obtain ⟨front, rfl, startOther⟩ := ih
      obtain ⟨read, rfl, derivesOther⟩ := derives.exists_read
      refine ⟨front ++ (read ++ [',']), by simp, fun other alike => ?_⟩
      have segment := derivesOther (',' :: other) (alike.behind [',']) (by simp)
      have before := startOther (read ++ ',' :: other) (by simpa using alike.behind (read ++ [',']))
      simpa using before.comma segment

/-- What has been read of a text has been read as well in front of any other text that numbers end
in front of alike. -/
theorem Reached.exists_front {source rest : List Char} {draft : Draft}
    (reached : Reached source draft rest) :
    ∃ front, source = front ++ rest ∧ ∀ other, EndsAlike rest other →
      Reached (front ++ other) draft other := by
  obtain ⟨text, start, begun⟩ := reached
  obtain ⟨read, rfl, begunOther⟩ := begun.exists_read
  obtain ⟨front, rfl, startOther⟩ := start.exists_front
  refine ⟨front ++ read, by simp, fun other alike => ?_⟩
  exact ⟨read ++ other, by simpa using startOther (read ++ other) (alike.behind read),
    begunOther other alike⟩

/-! ## Dead ends -/

namespace Reading

/-- Where no name follows a point, none follows it in a start of the text either. -/
theorem exists_error_of_member (target : Term) {part others : List Char}
    (noName : ((part ++ others).dropWhile isTrivia).head?.any startsName = false) :
    ∃ offence, member target part = .error offence := by
  rw [member]
  cases behindEq : part.dropWhile isTrivia with
  | nil => exact ⟨_, rfl⟩
  | cons initial behind =>
      have noStart : startsName initial = false := by
        simpa [List.dropWhile_append, behindEq] using noName
      exact ⟨_, by simp only [noStart]; rfl⟩

/-- Where no body ends with the matching delimiter, none does in a start of the text either. -/
theorem exists_error_of_body {delimiter : Delimiter} {part others inner behind : List Char}
    (matched : FirstMatch delimiter .outside 0 (part ++ others) inner behind)
    (unread : ¬ IsBody inner) :
    ∃ offence, body (program Draft.empty) delimiter part = .error offence := by
  rw [body]
  cases cut : cutSpan delimiter .outside 0 part with
  | none => exact ⟨_, rfl⟩
  | some found =>
      obtain ⟨first, rest⟩ := found
      have cutLater := cutSpan_append others cut
      rw [cutSpan_eq_some_iff.mpr matched] at cutLater
      obtain ⟨rfl, -⟩ := Prod.mk.inj (Option.some.inj cutLater)
      cases readContent : content (program Draft.empty) inner with
      | ok value => exact absurd (isBody_iff.mpr ⟨value, readContent⟩) unread
      | error offence =>
          exact ⟨offence.before (delimiter.closerChar :: rest), by simp only [readContent]⟩

end Reading

/-- A reader with a draft is in front of a point that no name follows, or of a delimiter behind
which no body ends with the matching one. -/
inductive Stuck (draft : Draft) : List Char → Prop
  | point {tail : List Char} (applied : draft.term.isSome = true)
      (noName : (tail.dropWhile isTrivia).head?.any startsName = false) : Stuck draft ('.' :: tail)
  | body {delimiter : Delimiter} {span inner behind : List Char}
      (opens : delimiter = .brace → draft.term = none)
      (matched : FirstMatch delimiter .outside 0 span inner behind)
      (unread : ¬ Reading.IsBody inner) : Stuck draft (delimiter.openerChar :: span)

namespace Stuck

variable {draft : Draft} {token : List Char}

theorem exists_mark (stuck : Stuck draft token) :
    ∃ mark tail, token = mark :: tail ∧ (mark = '.' ∨ mark = '(' ∨ mark = '\x7b') := by
  cases stuck with
  | point => exact ⟨_, _, rfl, .inl rfl⟩
  | @body delimiter =>
      refine ⟨_, _, rfl, .inr ?_⟩
      cases delimiter with
      | paren => exact .inl rfl
      | brace => exact .inr rfl

theorem nonempty (stuck : Stuck draft token) : token ≠ [] := by
  obtain ⟨mark, tail, rfl, -⟩ := stuck.exists_mark
  exact List.cons_ne_nil mark tail

theorem notWhite (stuck : Stuck draft token) (front : List Char) :
    Reading.isWhite (front ++ token) = false := by
  obtain ⟨mark, tail, rfl, isMark⟩ := stuck.exists_mark
  have inked : Unicode.isWhiteSpace mark = false := by
    rcases isMark with rfl | rfl | rfl <;> decide
  simp [Reading.isWhite, inked]

/-- An integer does not end in front of the token. -/
theorem not_integerEnds (stuck : Stuck draft token) : ¬ IntegerEnds token := by
  intro ends
  cases stuck with
  | @point tail _ noName =>
      rcases ends with ends | ⟨beyond, tokenEq, member⟩
      · cases show false = true from ends
      · obtain rfl := (List.cons.inj tokenEq).2
        cases tail with
        | nil => cases member
        | cons initial tail =>
            have starts : startsName initial = true := by
              rw [startsName, Bool.or_eq_true]
              exact .inl member
            rw [List.dropWhile_cons_of_neg (by simp [isTrivia_of_startsName starts])] at noName
            cases starts.symm.trans noName
  | @body delimiter _ _ _ _ _ _ =>
      rcases ends with ends | ⟨beyond, tokenEq, -⟩
      · cases delimiter <;> cases show false = true from ends
      · cases delimiter <;> cases (List.cons.inj tokenEq).1

/-- Numbers that end in front of the token end in front of every start of it, and of nothing. -/
theorem alike (stuck : Stuck draft token) {part : List Char} (isPrefix : part <+: token) :
    EndsAlike token part := by
  cases part with
  | nil =>
      obtain ⟨mark, tail, rfl, isMark⟩ := stuck.exists_mark
      have noMember : startsMember (mark :: tail) = false := by
        rcases isMark with rfl | rfl | rfl <;> rfl
      exact ⟨fun _ => .inl rfl, fun _ => .inl rfl, fun member => absurd member (by simp [noMember])⟩
  | cons first part =>
      obtain ⟨tail, rfl⟩ := isPrefix
      exact ⟨fun ends => absurd ends stuck.not_integerEnds, id, id⟩

/-- A name ends in front of a start of the token if a term stands there. -/
theorem endsName (stuck : Stuck draft token) {part : List Char} (isPrefix : part <+: token)
    (applied : draft.term.isSome = true) : endsName part = true := by
  obtain ⟨tail, tokenEq⟩ := isPrefix
  cases part with
  | nil => rfl
  | cons first part =>
      cases stuck with
      | point => rw [(List.cons.inj tokenEq).1]; rfl
      | @body delimiter _ _ _ opens =>
          cases delimiter with
          | paren => rw [(List.cons.inj tokenEq).1]; rfl
          | brace => simp [opens rfl] at applied

/-- No text that goes on over the start of the token is read. -/
theorem not_read (stuck : Stuck draft token) {part : List Char} (isPrefix : part <+: token)
    (nonempty : part ≠ []) (tree : Program) : Reading.program draft part ≠ .ok tree := by
  obtain ⟨first, part, rfl⟩ := List.exists_cons_of_ne_nil nonempty
  obtain ⟨others, rfl⟩ := isPrefix
  have failed : startsToken first = true ∧ ∃ offence,
      Reading.term (Reading.program Draft.empty) draft.term first part = .error offence := by
    generalize tokenEq : first :: part ++ others = token at stuck
    cases stuck with
    | point applied noName =>
        obtain ⟨rfl, rfl⟩ := List.cons.inj tokenEq
        obtain ⟨target, termEq⟩ := Option.isSome_iff_exists.mp applied
        rw [termEq]
        exact ⟨by decide, Reading.exists_error_of_member target noName⟩
    | @body delimiter _ _ _ opens matched unread =>
        obtain ⟨rfl, rfl⟩ := List.cons.inj tokenEq
        obtain ⟨offence, failed⟩ := Reading.exists_error_of_body matched unread
        cases delimiter with
        | paren =>
            refine ⟨by decide, offence, ?_⟩
            cases draft.term with
            | none => exact Reading.mapFirst_eq_error_iff.mpr failed
            | some target => exact Reading.mapFirst_eq_error_iff.mpr failed
        | brace =>
            rw [opens rfl]
            exact ⟨by decide, offence, Reading.mapFirst_eq_error_iff.mpr failed⟩
  obtain ⟨token, offence, failed⟩ := failed
  rw [Reading.program_of_term_error token failed]
  simp

end Stuck

/-- A text that goes on over the start of a token at which a reader is stuck is not read. -/
theorem Reached.not_read {source token part : List Char} {draft : Draft}
    (reached : Reached source draft part) (stuck : Stuck draft token) (isPrefix : part <+: token)
    (nonempty : part ≠ []) (tree : Program) : Reading.program Draft.empty source ≠ .ok tree := by
  rw [reached.read fun applied => stuck.endsName isPrefix applied]
  exact stuck.not_read isPrefix nonempty tree

/-- A text in which a reader gets stuck is no body. -/
theorem Reached.not_body {source token : List Char} {draft : Draft}
    (reached : Reached source draft token) (stuck : Stuck draft token) :
    ¬ Reading.IsBody source := by
  rintro (white | ⟨tree, read⟩)
  · obtain ⟨front, rfl, -⟩ := reached.exists_front
    rw [stuck.notWhite front] at white
    cases white
  · exact reached.not_read stuck List.prefix_rfl stuck.nonempty tree read

/-! ## The place at which a reader gets stuck -/

/-- The last segment of a slot. -/
def Slot.lastSegment : Slot → Segment
  | .last segment => segment
  | .andThen _ rest => rest.lastSegment

theorem Slot.lastSegment_behind (slot : Slot) (earlier : List Segment) :
    (slot.behind earlier).lastSegment = slot.lastSegment := by
  induction earlier generalizing slot with
  | nil => rfl
  | cons segment earlier ih => exact ih (.andThen segment slot)

/-- A draft is finished with its term in the last segment. -/
theorem Draft.lastSegment_finish (draft : Draft) :
    draft.finish.lastSlot.lastSegment = Segment.ofTerm? draft.term := by
  rw [finish, Program.lastSlot_behind, Program.lastSlot, slot, Slot.lastSegment_behind,
    Slot.lastSegment]

theorem Segment.ofTerm?_injective : Function.Injective Segment.ofTerm? := by
  rintro (_ | first) (_ | second) same <;> cases same <;> rfl

theorem Draft.term_eq_of_finish_eq {first second : Draft}
    (finishEq : first.finish = second.finish) : first.term = second.term := by
  have segmentEq := first.lastSegment_finish
  rw [finishEq, second.lastSegment_finish] at segmentEq
  exact (Segment.ofTerm?_injective segmentEq).symm

/-- A reader does not get behind the place at which another one is stuck. -/
theorem Stuck.not_passed {front token part : List Char} {draft second : Draft}
    (stuck : Stuck draft token) (isPrefix : part <+: token)
    (reached : ∀ other, EndsAlike token other → Reached (front ++ other) draft other)
    (passed : Reached (front ++ part) second []) : part = [] := by
  by_contra nonempty
  exact (reached part (stuck.alike isPrefix)).not_read stuck isPrefix nonempty _ passed.finish.read

/-- Readers that get stuck in a text get stuck at the same place of it and behind the same term. -/
theorem Reached.stuck_unique {source token other : List Char} {draft second : Draft}
    (reached : Reached source draft token) (reachedOther : Reached source second other)
    (stuck : Stuck draft token) (stuckOther : Stuck second other) :
    token = other ∧ draft.term = second.term := by
  obtain ⟨front, sourceEq, before⟩ := reached.exists_front
  obtain ⟨frontOther, otherEq, beforeOther⟩ := reachedOther.exists_front
  -- Both fronts are programs of their own, so neither goes on over the place of the other reader.
  have cut : Reached front draft [] := by
    simpa using before [] (stuck.alike List.nil_prefix)
  have cutOther : Reached frontOther second [] := by
    simpa using beforeOther [] (stuckOther.alike List.nil_prefix)
  have same : front = frontOther := by
    rcases List.append_eq_append_iff.mp (sourceEq.symm.trans otherEq) with
      ⟨part, rfl, tokenEq⟩ | ⟨part, rfl, tokenEq⟩
    · rw [stuck.not_passed ⟨_, tokenEq.symm⟩ before cutOther, List.append_nil]
    · rw [stuckOther.not_passed ⟨_, tokenEq.symm⟩ beforeOther cut, List.append_nil]
  subst same
  refine ⟨List.append_cancel_left (sourceEq.symm.trans otherEq), ?_⟩
  exact Draft.term_eq_of_finish_eq (cut.finish.unique cutOther.finish)

/-! ## Points that no name follows -/

/-- A text with a body inside in which a reader gets stuck is no body. -/
theorem Within.not_body {source earlier body later token : List Char} {draft : Draft}
    (within : Within source earlier body later) (reached : Reached body draft token)
    (stuck : Stuck draft token) : ¬ Reading.IsBody source := by
  induction within with
  | here => exact reached.not_body stuck
  | deeper _ outer opens matched _ ih => exact outer.not_body (.body opens matched (ih reached))

/-- A text has at most one point at which a reader of it, or of a body inside, is stuck. -/
theorem Within.point_unique {source earlier body later tail earlier' body' later' tail' : List Char}
    {draft draft' : Draft} (within : Within source earlier body later)
    (within' : Within source earlier' body' later') (reached : Reached body draft ('.' :: tail))
    (reached' : Reached body' draft' ('.' :: tail')) (stuck : Stuck draft ('.' :: tail))
    (stuck' : Stuck draft' ('.' :: tail')) :
    earlier = earlier' ∧ body = body' ∧ tail = tail' ∧ draft.term = draft'.term := by
  have notOpener : ∀ {delimiter : Delimiter} {rest others : List Char},
      '.' :: rest ≠ delimiter.openerChar :: others := by
    intro delimiter rest others consEq
    cases delimiter <;> cases (List.cons.inj consEq).1
  induction within generalizing earlier' later' with
  | here =>
      cases within' with
      | here =>
          obtain ⟨tokenEq, termEq⟩ := reached.stuck_unique reached' stuck stuck'
          exact ⟨rfl, rfl, (List.cons.inj tokenEq).2, termEq⟩
      | deeper _ outer opens matched inside =>
          have outerStuck := Stuck.body opens matched (inside.not_body reached' stuck')
          exact absurd (reached.stuck_unique outer stuck outerStuck).1 notOpener
  | @deeper outerDraft delimiter _ _ span inner _ _ _ _ textEq outer opens matched inside ih =>
      have outerStuck := Stuck.body opens matched (inside.not_body reached stuck)
      cases within' with
      | here => exact absurd (reached'.stuck_unique outer stuck' outerStuck).1 notOpener
      | @deeper _ other _ read _ _ _ _ _ _ textEq' outer' opens' matched' inside' =>
          have outerStuck' := Stuck.body opens' matched' (inside'.not_body reached' stuck')
          have sameToken := (outer.stuck_unique outer' outerStuck outerStuck').1
          obtain ⟨openerEq, rfl⟩ := List.cons.inj sameToken
          obtain rfl : delimiter = other := by
            cases delimiter <;> cases other <;> first | rfl | cases openerEq
          have cut := cutSpan_eq_some_iff.mpr matched
          rw [cutSpan_eq_some_iff.mpr matched'] at cut
          obtain ⟨rfl, rfl⟩ := Prod.mk.inj (Option.some.inj cut)
          obtain ⟨rfl, rfl, tailEq, termEq⟩ := ih inside' reached
          have readEq := List.append_cancel_right (textEq.symm.trans textEq')
          exact ⟨by rw [readEq], rfl, tailEq, termEq⟩

/-- Where a name is missing, a point stands behind a term, and trivia and no name behind the
point. -/
theorem Stops.missingName_cases {begun : Option Term} {token rest : List Char}
    {found : Option Char} (stops : Stops begun token (.missingName found) rest) :
    begun.isSome = true ∧ found = rest.head? ∧ found.any startsName = false ∧
      ∃ tail, token = '.' :: tail ∧ tail.dropWhile isTrivia = rest := by
  cases stops with
  | noName term between =>
      exact ⟨term, rfl, rfl, _, rfl, List.dropWhile_eq_nil_iff.mpr between⟩
  | @notName trivia behind found term between token notStart =>
      refine ⟨term, rfl, notStart, trivia ++ found :: behind, rfl, ?_⟩
      rw [Reading.dropWhile_trivia between, List.dropWhile_cons_of_neg (by simp [token])]

namespace Site

variable {source : List Char} {found next : Option Char}

/-- Where a name is missing, the reader of the body is stuck at a point, and what was found instead
of a name is the first token behind that. -/
theorem exists_point (site : Site source (.missingName found)) :
    ∃ tail, Reached site.body site.draft ('.' :: tail) ∧ Stuck site.draft ('.' :: tail) ∧
      tail.dropWhile isTrivia = site.rest ∧ found = site.rest.head? := by
  obtain ⟨applied, foundEq, noName, tail, tokenEq, restEq⟩ := site.stops.missingName_cases
  rw [foundEq, ← restEq] at noName
  exact ⟨tail, tokenEq ▸ site.reached, .point applied noName, restEq, foundEq⟩

/-- What stands in front of the point in its body is a program, and the point is applied to the last
term of it. -/
theorem exists_program (site : Site source (.missingName found)) :
    ∃ front trivia target program, site.before = front ++ '.' :: trivia ∧ Trivia trivia ∧
      Derives (.program program) front [] ∧ program.lastSlot.lastSegment = .term target ∧
      site.draft.term = some target := by
  obtain ⟨tail, reached, stuck, restEq, -⟩ := site.exists_point
  obtain ⟨target, termEq⟩ := Option.isSome_iff_exists.mp site.stops.missingName_cases.1
  obtain ⟨front, bodyEq, before⟩ := reached.exists_front
  have cut : Reached front site.draft [] := by
    simpa using before [] (stuck.alike List.nil_prefix)
  obtain ⟨trivia, around, tailEq, -⟩ := exists_trivia tail
  have beforeEq : site.before = front ++ '.' :: trivia := by
    rw [site.body_eq, tailEq, restEq, ← List.cons_append, ← List.append_assoc] at bodyEq
    exact List.append_cancel_right bodyEq
  refine ⟨front, trivia, target, site.draft.finish, beforeEq, around, cut.finish, ?_, termEq⟩
  rw [Draft.lastSegment_finish, termEq]
  rfl

/-- A text has at most one place at which a name is missing. -/
theorem missingName_unique (site : Site source (.missingName found))
    (other : Site source (.missingName next)) :
    found = next ∧ site.front = other.front ∧ site.draft.term = other.draft.term := by
  obtain ⟨tail, reached, stuck, restEq, foundEq⟩ := site.exists_point
  obtain ⟨_, reachedOther, stuckOther, otherRestEq, nextEq⟩ := other.exists_point
  obtain ⟨earlierEq, bodyEq, rfl, termEq⟩ :=
    site.within.point_unique other.within reached reachedOther stuck stuckOther
  have sameRest : site.rest = other.rest := restEq.symm.trans otherRestEq
  have beforeEq : site.before = other.before := by
    have split := site.body_eq
    rw [bodyEq, other.body_eq, sameRest] at split
    exact (List.append_cancel_right split).symm
  exact ⟨by rw [foundEq, nextEq, sameRest], by rw [front, front, earlierEq, beforeEq], termEq⟩

end Site

end Focal.Syntax
