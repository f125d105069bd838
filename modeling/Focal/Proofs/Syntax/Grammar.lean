import Focal.Proofs.Syntax.Reading

/-!
# The grammar

`Derives phrase text rest` says that a text starts with a phrase and that `rest` stands behind it.

```
program  ::=  slot ("," slot)*
slot     ::=  segment (";" segment)*
segment  ::=  trivia, or trivia term trivia
term     ::=  primary (trivia trailer)*
primary  ::=  "this" | name | string | integer | fraction | "(" body ")" | "{" body "}"
trailer  ::=  "(" body ")" | "." trivia name
body     ::=  white space alone, or a program
```

Only numbers look at what stands behind them.  A body is derived from the text between its
delimiters alone; nothing here says how the closing delimiter is found.  That the scan for it finds
the right one is because derivable texts are neutral: they hold as many closing delimiters as
opening ones, none of them too early, and every quote in them is closed (`Derives.neutral`).
-/

namespace Focal.Syntax

open Focal.Source Focal.Source.Cursor

/-! ## Tokens -/

/-- Blanks and line terminators alone. -/
def Trivia (text : List Char) : Prop :=
  ∀ character ∈ text, isTrivia character = true

/-- Decimal digits, at least one. -/
def Digits (text : List Char) : Prop :=
  text ≠ [] ∧ ∀ character ∈ text, character.isDigit = true

/-- A letter, an underscore or a dollar sign, and then more of these and digits. -/
inductive Name : List Char → Prop
  | intro {initial : Char} {more : List Char} (starts : startsName initial = true)
      (continues : ∀ character ∈ more, continuesName character = true) : Name (initial :: more)

/-- The content of a string literal, and the text it stands for. -/
inductive Spells : List Char → List Char → Prop
  | nil : Spells [] []
  | plain {character : Char} {content text : List Char} (notQuote : character ≠ '"')
      (notBackslash : character ≠ '\\') (spells : Spells content text) :
      Spells (character :: content) (character :: text)
  | escaped {character : Char} {content text : List Char} (spells : Spells content text) :
      Spells ('\\' :: character :: content) (escapeValue character :: text)

/-- What may stand directly behind an integer: nothing, a blank, a line terminator, a separator, or
a point and a letter or underscore. -/
def IntegerEnds (rest : List Char) : Prop :=
  Reading.endsNumber rest = true ∨
    ∃ beyond, rest = '.' :: beyond ∧ Reading.startsMember beyond = true

/-- What may stand directly behind a fraction: nothing, a blank, a line terminator, a separator or a
point. -/
def FractionEnds (rest : List Char) : Prop :=
  Reading.endsNumber rest = true ∨ rest.head? = some '.'

/-- A text starts with trivia, and no more of it follows. -/
theorem exists_trivia (text : List Char) :
    ∃ trivia, Trivia trivia ∧ text = trivia ++ text.dropWhile isTrivia ∧
      ∀ initial rest, text.dropWhile isTrivia = initial :: rest → isTrivia initial = false := by
  refine ⟨text.takeWhile isTrivia, fun _ member => List.mem_takeWhile_imp member,
    List.takeWhile_append_dropWhile.symm, ?_⟩
  exact fun _ _ => eq_false_of_dropWhile_eq_cons

/-! ## Derivations -/

/-- What a text can be derived as. -/
inductive Phrase where
  | term (term : Term)
  | segment (segment : Segment)
  | slot (slot : Slot)
  | program (program : Program)
  | body (body : Body)

/-- A text starts with a phrase in front of the rest. -/
inductive Derives : Phrase → List Char → List Char → Prop
  | receiver {rest : List Char} :
      Derives (.term .receiver) ("this".toList ++ rest) rest
  | name {spelled rest : List Char} (name : Name spelled) (other : spelled ≠ "this".toList) :
      Derives (.term (.name (String.ofList spelled))) (spelled ++ rest) rest
  | str {content text rest : List Char} (spells : Spells content text) :
      Derives (.term (.str (String.ofList text))) ('"' :: content ++ '"' :: rest) rest
  | int {digits rest : List Char} (run : Digits digits)
      (small : Decimal.digitsValue digits ≤ largestInt) (ends : IntegerEnds rest) :
      Derives (.term (.int (Int64.ofNat (Decimal.digitsValue digits)))) (digits ++ rest) rest
  | float {whole fraction rest : List Char} (wholeRun : Digits whole)
      (fractionRun : Digits fraction) (ends : FractionEnds rest) :
      Derives (.term (.float (Decimal.nearest (Decimal.digitsValue (whole ++ fraction))
        (-fraction.length)))) (whole ++ '.' :: fraction ++ rest) rest
  | group {body : Body} {inner rest : List Char} (inside : Derives (.body body) inner []) :
      Derives (.term (.group body)) ('(' :: inner ++ ')' :: rest) rest
  | block {body : Body} {inner rest : List Char} (inside : Derives (.body body) inner []) :
      Derives (.term (.block body)) ('\x7b' :: inner ++ '\x7d' :: rest) rest
  | call {target : Term} {arguments : Body} {text trivia inner rest : List Char}
      (called : Derives (.term target) text (trivia ++ '(' :: inner ++ ')' :: rest))
      (between : Trivia trivia) (inside : Derives (.body arguments) inner []) :
      Derives (.term (.call target arguments)) text rest
  | member {target : Term} {text before behind spelled rest : List Char}
      (accessed : Derives (.term target) text (before ++ '.' :: behind ++ spelled ++ rest))
      (between : Trivia before) (within : Trivia behind) (name : Name spelled) :
      Derives (.term (.member target (String.ofList spelled))) text rest
  | empty {trivia rest : List Char} (around : Trivia trivia) :
      Derives (.segment .empty) (trivia ++ rest) rest
  | segment {term : Term} {before text behind rest : List Char} (leading : Trivia before)
      (inside : Derives (.term term) text (behind ++ rest)) (trailing : Trivia behind) :
      Derives (.segment (.term term)) (before ++ text) rest
  | lastSegment {segment : Segment} {text rest : List Char}
      (only : Derives (.segment segment) text rest) :
      Derives (.slot (.last segment)) text rest
  | semicolon {segment : Segment} {slot : Slot} {text middle rest : List Char}
      (first : Derives (.segment segment) text (';' :: middle))
      (others : Derives (.slot slot) middle rest) :
      Derives (.slot (.andThen segment slot)) text rest
  | lastSlot {slot : Slot} {text rest : List Char} (only : Derives (.slot slot) text rest) :
      Derives (.program (.last slot)) text rest
  | comma {slot : Slot} {program : Program} {text middle rest : List Char}
      (first : Derives (.slot slot) text (',' :: middle))
      (others : Derives (.program program) middle rest) :
      Derives (.program (.andThen slot program)) text rest
  | blank {inner : List Char} (white : Reading.isWhite inner = true) :
      Derives (.body .blank) inner []
  | body {program : Program} {inner : List Char} (inked : Reading.isWhite inner = false)
      (inside : Derives (.program program) inner []) :
      Derives (.body (.program program)) inner []

/-! ## String literals -/

theorem closeQuote_of_spells {content text : List Char} (spells : Spells content text)
    (rest : List Char) : closeQuote false (content ++ '"' :: rest) = some (content, rest) := by
  induction spells with
  | nil => rfl
  | plain notQuote notBackslash _ ih =>
      rw [List.cons_append, closeQuote, if_neg notQuote, beq_false_of_ne notBackslash, ih]
      rfl
  | escaped _ ih => simp [closeQuote, ih]

theorem unescape_of_spells {content text : List Char} (spells : Spells content text) :
    unescape false content = text := by
  induction spells with
  | nil => rfl
  | plain _ notBackslash _ ih => simp [unescape, notBackslash, ih]
  | escaped _ ih => simp [unescape, ih]

/-- What stands up to the closing quote spells some text. -/
theorem spells_of_closeQuote {escaped : Bool} {text content rest : List Char} :
    closeQuote escaped text = some (content, rest) →
      if escaped then
        ∃ character inner, content = character :: inner ∧
          Spells inner (unescape false inner)
      else Spells content (unescape false content) := by
  fun_induction closeQuote escaped text generalizing content with
  | case1 => simp
  | case2 character text ih =>
      intro closed
      obtain ⟨inner, found, rfl⟩ := further_eq_some_iff.mp closed
      exact ⟨character, inner, rfl, by simpa using ih found⟩
  | case3 text =>
      intro closed
      obtain ⟨rfl, rfl⟩ : [] = content ∧ text = rest := by simpa using closed
      exact Spells.nil
  | case4 character text notQuote ih =>
      intro closed
      obtain ⟨inner, found, rfl⟩ := further_eq_some_iff.mp closed
      by_cases isBackslash : character = '\\'
      · subst isBackslash
        obtain ⟨next, inner, rfl, spells⟩ := ih found
        simpa [unescape] using spells.escaped
      · have spells := ih found
        simp only [beq_false_of_ne isBackslash, Bool.false_eq_true, if_false] at spells
        simpa [unescape, isBackslash] using spells.plain notQuote isBackslash

/-! ## Neutral texts -/

/-- A text that the scan for the end of a span passes without a change of depth, whatever kind of
span it is in. -/
def Neutral (text : List Char) : Prop :=
  ∀ delimiter depth rest, cutSpan delimiter .outside depth (text ++ rest) =
    further text (cutSpan delimiter .outside depth rest)

/-- A character that is neither a delimiter nor a quote. -/
def isPlain (character : Char) : Bool :=
  character != '(' && character != ')' && character != '\x7b' && character != '\x7d' &&
    character != '"'

namespace Neutral

theorem nil : Neutral [] := by
  simp [Neutral]

theorem append {first second : List Char} (firstNeutral : Neutral first)
    (secondNeutral : Neutral second) : Neutral (first ++ second) := by
  intro delimiter depth rest
  rw [List.append_assoc, firstNeutral, secondNeutral, further_further]

theorem of_plain {text : List Char} (plain : ∀ character ∈ text, isPlain character = true) :
    Neutral text := by
  intro delimiter depth rest
  apply cutSpan_append_of_plain depth rest
  intro character member
  have differs := plain character member
  simp only [isPlain, bne_iff_ne, Bool.and_eq_true] at differs
  cases delimiter <;> simp_all [Delimiter.openerChar, Delimiter.closerChar]

theorem singleton {character : Char} (plain : isPlain character = true) : Neutral [character] :=
  of_plain (by simpa using plain)

/-- A text in delimiters raises the depth by one and lowers it again. -/
theorem enclosed {inner : List Char} (neutral : Neutral inner) (delimiter : Delimiter) :
    Neutral (delimiter.openerChar :: inner ++ [delimiter.closerChar]) := by
  intro scanned depth rest
  cases delimiter <;> cases scanned <;>
    simp [cutSpan, Delimiter.openerChar, Delimiter.closerChar, Quoting.next, neutral _ _ _]

/-- A string literal. -/
theorem quoted {content text : List Char} (spells : Spells content text) :
    Neutral ('"' :: content ++ ['"']) := by
  intro delimiter depth rest
  have opened : cutSpan delimiter .outside depth ('"' :: (content ++ '"' :: rest)) =
      further ['"'] (cutSpan delimiter (.inside false) depth (content ++ '"' :: rest)) := by
    cases delimiter <;> simp [cutSpan, Delimiter.openerChar, Delimiter.closerChar, Quoting.next]
  have closed := closeQuote_of_spells spells rest
  simp [opened, cutSpan_inside, closed]

/-- A neutral text up to a closing delimiter is the content of the span that this one ends. -/
theorem cutSpan {inner : List Char} (neutral : Neutral inner) (delimiter : Delimiter)
    (rest : List Char) :
    cutSpan delimiter .outside 0 (inner ++ delimiter.closerChar :: rest) = some (inner, rest) := by
  rw [neutral, Source.cutSpan, if_pos rfl]
  simp

end Neutral

theorem isPlain_of_isTrivia {character : Char} (trivia : isTrivia character = true) :
    isPlain character = true := by
  simp only [isPlain, Bool.and_eq_true, bne_iff_ne, and_assoc]
  refine ⟨?_, ?_, ?_, ?_, ?_⟩ <;> rintro rfl <;> exact absurd trivia (by decide)

theorem isPlain_of_continuesName {character : Char} (continues : continuesName character = true) :
    isPlain character = true := by
  simp only [isPlain, Bool.and_eq_true, bne_iff_ne, and_assoc]
  refine ⟨?_, ?_, ?_, ?_, ?_⟩ <;> rintro rfl <;> exact absurd continues (by decide)

theorem isPlain_of_isDigit {character : Char} (digit : character.isDigit = true) :
    isPlain character = true := by
  simp only [isPlain, Bool.and_eq_true, bne_iff_ne, and_assoc]
  refine ⟨?_, ?_, ?_, ?_, ?_⟩ <;> rintro rfl <;> exact absurd digit (by decide)

theorem isPlain_of_isWhiteSpace {character : Char} (white : Unicode.isWhiteSpace character = true) :
    isPlain character = true := by
  simp only [isPlain, Bool.and_eq_true, bne_iff_ne, and_assoc]
  refine ⟨?_, ?_, ?_, ?_, ?_⟩ <;> rintro rfl <;> exact absurd white (by decide)

theorem Trivia.neutral {text : List Char} (trivia : Trivia text) : Neutral text :=
  Neutral.of_plain fun character member => isPlain_of_isTrivia (trivia character member)

theorem Digits.neutral {text : List Char} (digits : Digits text) : Neutral text :=
  Neutral.of_plain fun character member => isPlain_of_isDigit (digits.2 character member)

theorem Name.continues {spelled : List Char} (name : Name spelled) :
    ∀ character ∈ spelled, continuesName character = true := by
  rcases name with ⟨starts, continues⟩
  intro character member
  rcases List.mem_cons.mp member with rfl | member
  · exact continuesName_of_startsName starts
  · exact continues character member

theorem Name.neutral {spelled : List Char} (name : Name spelled) : Neutral spelled :=
  Neutral.of_plain fun character member =>
    isPlain_of_continuesName (name.continues character member)

theorem neutral_of_isWhite {text : List Char} (white : Reading.isWhite text = true) :
    Neutral text :=
  Neutral.of_plain fun character member =>
    isPlain_of_isWhiteSpace (List.all_eq_true.mp white character member)

/-- A derivation reads a neutral text. -/
theorem Derives.neutral {phrase : Phrase} {text rest : List Char}
    (derives : Derives phrase text rest) : ∃ read, text = read ++ rest ∧ Neutral read := by
  induction derives with
  | receiver => exact ⟨_, rfl, Neutral.of_plain (List.all_eq_true.mp (by decide))⟩
  | name name _ => exact ⟨_, rfl, name.neutral⟩
  | str spells => exact ⟨_, by simp, Neutral.quoted spells⟩
  | int run _ _ => exact ⟨_, rfl, run.neutral⟩
  | float wholeRun fractionRun _ =>
      have point : Neutral ['.'] := Neutral.singleton (by decide)
      exact ⟨_, by simp, (wholeRun.neutral.append point).append fractionRun.neutral⟩
  | group _ ih =>
      rcases ih with ⟨inner, rfl, neutral⟩
      exact ⟨_, by simp [Delimiter.openerChar, Delimiter.closerChar], neutral.enclosed .paren⟩
  | block _ ih =>
      rcases ih with ⟨inner, rfl, neutral⟩
      exact ⟨_, by simp [Delimiter.openerChar, Delimiter.closerChar], neutral.enclosed .brace⟩
  | call _ between _ calledIh insideIh =>
      rcases calledIh with ⟨read, rfl, neutral⟩
      rcases insideIh with ⟨inner, rfl, innerNeutral⟩
      exact ⟨_, by simp [Delimiter.openerChar, Delimiter.closerChar],
        (neutral.append between.neutral).append (innerNeutral.enclosed .paren)⟩
  | member _ between within name ih =>
      rcases ih with ⟨read, rfl, neutral⟩
      have point : Neutral ['.'] := Neutral.singleton (by decide)
      exact ⟨_, by simp, (((neutral.append between.neutral).append point).append
        within.neutral).append name.neutral⟩
  | empty around => exact ⟨_, rfl, around.neutral⟩
  | segment leading _ trailing ih =>
      rcases ih with ⟨read, rfl, neutral⟩
      exact ⟨_, by simp, (leading.neutral.append neutral).append trailing.neutral⟩
  | lastSegment _ ih => exact ih
  | semicolon _ _ firstIh othersIh =>
      rcases othersIh with ⟨others, rfl, othersNeutral⟩
      rcases firstIh with ⟨first, rfl, firstNeutral⟩
      have separator : Neutral [';'] := Neutral.singleton (by decide)
      exact ⟨_, by simp, (firstNeutral.append separator).append othersNeutral⟩
  | lastSlot _ ih => exact ih
  | comma _ _ firstIh othersIh =>
      rcases othersIh with ⟨others, rfl, othersNeutral⟩
      rcases firstIh with ⟨first, rfl, firstNeutral⟩
      have separator : Neutral [','] := Neutral.singleton (by decide)
      exact ⟨_, by simp, (firstNeutral.append separator).append othersNeutral⟩
  | blank white => exact ⟨_, by simp, neutral_of_isWhite white⟩
  | body _ _ ih => exact ih

/-- The text between two delimiters is neutral if it derives a body. -/
theorem Derives.neutral_body {body : Body} {inner : List Char}
    (derives : Derives (.body body) inner []) : Neutral inner := by
  obtain ⟨read, rfl, neutral⟩ := derives.neutral
  rwa [List.append_nil]

end Focal.Syntax
