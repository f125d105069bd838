import Focal.Proofs.Diagnostic.Snippets

/-!
# Colours as decoration

What is written with colours is what is written without them, and sequences for a terminal between.
A reader of the output (`tokens`) tells the two apart without knowing which pieces of text had a
style.  As long as no text brings an escape character of its own, the reader finds the pieces again
(`tokens_write`), so that what it shows is the output without colours, and each sequence that
switches a style on is followed by the one that switches every style off (`write_colors_exact`).
-/

namespace Focal.Diagnostic

/-! ## What a terminal reads -/

/-- The character that a sequence starts with. -/
def escape : Char := '\x1b'

/-- What a terminal reads. -/
inductive Token where
  /-- A character to show. -/
  | shown (character : Char)
  /-- An escape character and a bracket, parameters without an `m`, and an `m`. -/
  | sequence (parameters : List Char)
deriving DecidableEq

/-- The characters of a token. -/
def Token.text : Token → List Char
  | shown character => [character]
  | sequence parameters => escape :: '[' :: (parameters ++ ['m'])

/-- The tokens of a text behind the start of a sequence, if there is one, and the parameters `held`
of it so far.  What is still held at the end of the text is shown. -/
def tokensBehind : Option (List Char) → List Char → List Token
  | none, first :: second :: rest =>
      if first = escape ∧ second = '[' then tokensBehind (some []) rest
      else .shown first :: tokensBehind none (second :: rest)
  | none, rest => rest.map .shown
  | some held, [] => (escape :: '[' :: held).map .shown
  | some held, character :: rest =>
      if character = 'm' then .sequence held :: tokensBehind none rest
      else tokensBehind (some (held ++ [character])) rest

/-- The tokens of a text. -/
def tokens (text : List Char) : List Token :=
  tokensBehind none text

/-- Reading tokens loses nothing. -/
theorem flatMap_tokensBehind (held : Option (List Char)) (text : List Char) :
    (tokensBehind held text).flatMap Token.text =
      held.elim text fun parameters => escape :: '[' :: (parameters ++ text) := by
  have shownEq : ∀ text : List Char, (text.map Token.shown).flatMap Token.text = text := by
    intro text
    simp [List.flatMap_map, Token.text]
  fun_induction tokensBehind held text with
  | case1 first second rest starts ih => simp [ih, starts]
  | case2 first second rest plain ih => simpa [Token.text] using ih
  | case3 => exact shownEq _
  | case4 => rw [shownEq]; simp
  | case5 held rest ih => simp [Token.text, ih]
  | case6 held character rest inside ih => simp [ih]

/-- The character that a token shows. -/
def Token.shown? : Token → Option Char
  | shown character => some character
  | sequence _ => none

/-- The parameters of a token that is a sequence. -/
def Token.sequence? : Token → Option (List Char)
  | shown _ => none
  | sequence parameters => some parameters

/-- What is left of a text without its sequences. -/
def erase (text : List Char) : List Char :=
  (tokens text).filterMap Token.shown?

/-- The parameters of the sequences of a text, in order. -/
def sequences (text : List Char) : List (List Char) :=
  (tokens text).filterMap Token.sequence?

example : erase "\x1b[1mE\x1b[0m[m\x1b[".toList = "E[m\x1b[".toList := rfl

theorem tokens_cons {character : Char} (plain : character ≠ escape) (rest : List Char) :
    tokens (character :: rest) = .shown character :: tokens rest := by
  cases rest with
  | nil => rfl
  | cons second rest => exact if_neg fun starts => plain starts.1

theorem tokens_append {text : List Char} (plain : escape ∉ text) (rest : List Char) :
    tokens (text ++ rest) = text.map .shown ++ tokens rest := by
  induction text with
  | nil => rfl
  | cons character text ih =>
      have differs := List.ne_of_not_mem_cons plain
      have others := ih (List.not_mem_of_not_mem_cons plain)
      rw [List.cons_append, tokens_cons (Ne.symm differs), others, List.map_cons, List.cons_append]

theorem tokensBehind_parameters {parameters : List Char} (inside : 'm' ∉ parameters)
    (held rest : List Char) :
    tokensBehind (some held) (parameters ++ 'm' :: rest) =
      .sequence (held ++ parameters) :: tokens rest := by
  induction parameters generalizing held with
  | nil => simp [tokensBehind, tokens]
  | cons character parameters ih =>
      have differs := List.ne_of_not_mem_cons inside
      rw [List.cons_append, tokensBehind, if_neg (Ne.symm differs),
        ih (List.not_mem_of_not_mem_cons inside), List.append_assoc, List.singleton_append]

theorem tokens_sequence {parameters : List Char} (inside : 'm' ∉ parameters) (rest : List Char) :
    tokens ((Token.sequence parameters).text ++ rest) = .sequence parameters :: tokens rest := by
  have started : tokens ((Token.sequence parameters).text ++ rest) =
      tokensBehind (some []) (parameters ++ 'm' :: rest) := by
    simp [tokens, Token.text, tokensBehind]
  rw [started, tokensBehind_parameters inside, List.nil_append]

/-! ## Pieces as tokens -/

/-- The parameters of the sequence that switches a style on. -/
def Style.parameters : Style → List Char
  | .error => ['1', ';', '3', '1']
  | .help => ['1', ';', '3', '2']
  | .bold => ['1']
  | .gutter => ['1', ';', '3', '4']

/-- The parameters of the sequence that switches every style off. -/
def resetParameters : List Char := ['0']

theorem Style.toList_start (style : Style) :
    style.start.toList = (Token.sequence style.parameters).text := by
  cases style <;> rfl

theorem Style.toList_stop : Style.stop.toList = (Token.sequence resetParameters).text :=
  rfl

theorem Style.m_not_mem_parameters (style : Style) : 'm' ∉ style.parameters := by
  cases style <;> decide

/-- The tokens of a piece that is written with colours. -/
def Piece.tokens (piece : Piece) : List Token :=
  match piece.style with
  | some style =>
      .sequence style.parameters ::
        (piece.text.toList.map .shown ++ [.sequence resetParameters])
  | none => piece.text.toList.map .shown

/-- A text without escape characters, which starts no sequences of its own. -/
def PlainText (text : String) : Prop :=
  escape ∉ text.toList

instance (text : String) : Decidable (PlainText text) :=
  inferInstanceAs (Decidable (escape ∉ text.toList))

/-- A piece of such text, in whatever style. -/
def Piece.Plain (piece : Piece) : Prop :=
  PlainText piece.text

theorem Piece.Plain.tokens_write {piece : Piece} (plain : piece.Plain) (rest : List Char) :
    Diagnostic.tokens ((piece.write true).toList ++ rest) =
      piece.tokens ++ Diagnostic.tokens rest := by
  rcases piece with ⟨style, text⟩
  cases style with
  | none => exact tokens_append plain rest
  | some style =>
      have writtenEq : (Piece.write true ⟨some style, text⟩).toList ++ rest =
          (Token.sequence style.parameters).text ++
            (text.toList ++ ((Token.sequence resetParameters).text ++ rest)) := by
        simp [Piece.write, Style.toList_start, Style.toList_stop]
      rw [writtenEq, tokens_sequence style.m_not_mem_parameters, tokens_append plain,
        tokens_sequence (by decide)]
      simp [Piece.tokens]

/-- The tokens of pieces that are written with colours are those of one piece after another. -/
theorem tokens_write {pieces : List Piece} (plain : ∀ piece ∈ pieces, piece.Plain) :
    tokens (write true pieces).toList = pieces.flatMap Piece.tokens := by
  induction pieces with
  | nil => rfl
  | cons piece pieces ih =>
      obtain ⟨first, others⟩ := List.forall_mem_cons.mp plain
      have writtenEq : (write true (piece :: pieces)).toList =
          (piece.write true).toList ++ (write true pieces).toList := by
        simp [write]
      rw [writtenEq, first.tokens_write, ih others, List.flatMap_cons]

theorem filterMap_shown (text : List Char) :
    (text.map Token.shown).filterMap Token.shown? = text := by
  rw [List.filterMap_map]
  exact List.filterMap_some

theorem filterMap_sequence_shown (text : List Char) :
    (text.map Token.shown).filterMap Token.sequence? = [] := by
  simp [List.filterMap_map, Function.comp_def, Token.sequence?]

/-- What a piece shows is what is written of it without colours. -/
theorem Piece.filterMap_shown_tokens (piece : Piece) :
    piece.tokens.filterMap Token.shown? = (piece.write false).toList := by
  rcases piece with ⟨style, text⟩
  cases style with
  | none => exact filterMap_shown text.toList
  | some style =>
      simp only [Piece.tokens, List.filterMap_cons, List.filterMap_append, filterMap_shown,
        Token.shown?]
      exact List.append_nil _

/-- What is written with colours is what is written without, if the sequences are left out. -/
theorem erase_write {pieces : List Piece} (plain : ∀ piece ∈ pieces, piece.Plain) :
    erase (write true pieces).toList = (write false pieces).toList := by
  rw [erase, tokens_write plain, List.filterMap_flatMap]
  simp [Piece.filterMap_shown_tokens, write, List.flatMap_map]

/-! ## Sequences in pairs -/

/-- Each sequence that switches a style on is followed by the one that switches every style off,
before another one switches a style on. -/
inductive Closed : List (List Char) → Prop
  | nil : Closed []
  | pair {parameters : List Char} {others : List (List Char)} (start : parameters ≠ resetParameters)
      (closed : Closed others) : Closed (parameters :: resetParameters :: others)

theorem Closed.append {first second : List (List Char)} (closed : Closed first)
    (closedToo : Closed second) : Closed (first ++ second) := by
  induction closed with
  | nil => exact closedToo
  | pair start _ ih => exact .pair start ih

theorem Style.parameters_ne_reset (style : Style) : style.parameters ≠ resetParameters := by
  cases style <;> decide

/-- A piece has either no sequences or those that switch its style on and off. -/
theorem Piece.closed_tokens (piece : Piece) :
    Closed (piece.tokens.filterMap Token.sequence?) := by
  rcases piece with ⟨style, text⟩
  cases style with
  | none =>
      rw [Piece.tokens, filterMap_sequence_shown]
      exact .nil
  | some style =>
      simp only [Piece.tokens, List.filterMap_cons, List.filterMap_append, filterMap_sequence_shown,
        Token.sequence?]
      exact .pair style.parameters_ne_reset .nil

/-- The sequences of what is written with colours come in pairs. -/
theorem closed_write {pieces : List Piece} (plain : ∀ piece ∈ pieces, piece.Plain) :
    Closed (sequences (write true pieces).toList) := by
  rw [sequences, tokens_write plain]
  -- Once the tokens are known, the texts do not matter.
  clear plain
  induction pieces with
  | nil => exact .nil
  | cons piece pieces ih =>
      rw [List.flatMap_cons, List.filterMap_append]
      exact piece.closed_tokens.append ih

/-! ## Diagnostics without escape characters -/

@[simp]
theorem plainText_append {first second : String} :
    PlainText (first ++ second) ↔ PlainText first ∧ PlainText second := by
  simp [PlainText, not_or]

@[simp]
theorem plain_plain {text : String} : (plain text).Plain ↔ PlainText text :=
  Iff.rfl

@[simp]
theorem plain_styled {style : Style} {text : String} :
    (styled style text).Plain ↔ PlainText text :=
  Iff.rfl

@[simp]
theorem plainText_blanks (count : Nat) : PlainText (blanks count) := by
  simp [PlainText, blanks, escape]

@[simp]
theorem plainText_gutter (line : Nat) : PlainText (gutter line) :=
  plainText_blanks _

@[simp]
theorem plainText_repr (number : Nat) : PlainText number.repr := by
  intro member
  rw [← Nat.toString_eq_repr, toList_toString] at member
  exact absurd (Nat.isDigit_of_mem_toDigits (by decide) (by decide) member) (by decide)

@[simp]
theorem plainText_code (code : Code) : PlainText code.text := by
  cases code <;> decide

/-- The texts of a diagnostic have no escape characters. -/
structure Plain (diagnostic : Diagnostic) : Prop where
  message : PlainText diagnostic.message
  label : ∀ label ∈ diagnostic.label, PlainText label
  notes : ∀ note ∈ diagnostic.notes, PlainText note
  suggestions : ∀ suggestion ∈ diagnostic.suggestions, PlainText suggestion

/-- A source and its name have no escape characters. -/
structure Origin.Plain (origin : Origin) : Prop where
  source : ∀ source ∈ origin.source, PlainText source
  path : ∀ path ∈ origin.path, PlainText path

theorem plain_summary (count : Nat) : ∀ piece ∈ summary count, piece.Plain := by
  have word : PlainText "error" := by decide
  rcases count with _ | _ | count
  · exact List.forall_mem_nil _
  · simpa [summary, word] using (by decide : PlainText ": aborting due to previous error\n")
  · have texts : PlainText ": aborting due to " ∧ PlainText " previous errors\n" := by decide
    simp [summary, word, texts]

theorem plain_trailers {margin kind : String} {style : Style} {texts : List String}
    (plainMargin : PlainText margin) (plainKind : PlainText kind)
    (plainTexts : ∀ text ∈ texts, PlainText text) :
    ∀ piece ∈ texts.flatMap (trailer margin kind style), piece.Plain := by
  have fixed : PlainText "= " ∧ PlainText ": " ∧ PlainText "\n" := by decide
  intro piece member
  obtain ⟨text, isText, member⟩ := List.mem_flatMap.mp member
  have plainTrailer : ∀ piece ∈ trailer margin kind style text, piece.Plain := by
    simp [trailer, plainMargin, plainKind, plainTexts text isText, fixed]
  exact plainTrailer piece member

theorem plain_marker {line : List Char} {label : Option String}
    (plainLabel : ∀ text ∈ label, PlainText text) : PlainText (marker line label) := by
  have carets : PlainText (String.ofList (List.replicate (max 1 (trim line).length) '^')) := by
    simp [PlainText, escape]
  cases label with
  | none => simpa [marker] using carets
  | some label => simp [marker, carets, plainLabel label rfl, (by decide : PlainText " ")]

theorem plain_snippet {text : List Char} {label : Option String} (line : Nat)
    (plainLine : escape ∉ text) (plainLabel : ∀ text ∈ label, PlainText text) :
    ∀ piece ∈ snippet line text label, piece.Plain := by
  have texts : PlainText " |" ∧ PlainText "\n" ∧ PlainText " " := by decide
  have shown : PlainText (String.ofList text) := by simpa [PlainText] using plainLine
  simp [snippet, texts, shown, plain_marker plainLabel]

/-- A line of a source has no escape characters if the source has none. -/
theorem Origin.Plain.line? {origin : Origin} (plainOrigin : origin.Plain) {line : Nat}
    {text : List Char} (found : origin.line? line = some text) : escape ∉ text := by
  obtain ⟨source, sourceEq, before, behind, textEq, -⟩ := Origin.line?_eq_some_iff.mp found
  intro member
  apply plainOrigin.source source sourceEq
  rw [textEq]
  exact List.mem_append_right _ (List.mem_append_left _ member)

theorem plain_location {origin : Origin} {diagnostic : Diagnostic} (plainOrigin : origin.Plain)
    (plainDiagnostic : diagnostic.Plain) (line : Nat) :
    ∀ piece ∈ location origin diagnostic line, piece.Plain := by
  have texts : PlainText "--> " ∧ PlainText ":" ∧ PlainText ": " ∧ PlainText "\n" := by decide
  have path : PlainText (origin.path.getD "<input>") := by
    cases pathEq : origin.path with
    | none => decide
    | some path => exact plainOrigin.path path pathEq
  rw [location]
  cases found : origin.line? line with
  | some text =>
      refine List.forall_mem_cons.mpr ⟨?_, ?_⟩
      · simp [texts, path]
      · exact plain_snippet line (plainOrigin.line? found) plainDiagnostic.label
  | none =>
      cases labelEq : diagnostic.label with
      | none => simp [texts, path]
      | some label => simp [texts, path, plainDiagnostic.label label labelEq]

/-- A diagnostic without escape characters is laid out as pieces without them. -/
theorem plain_layout {origin : Origin} {diagnostic : Diagnostic} (plainOrigin : origin.Plain)
    (plainDiagnostic : diagnostic.Plain) : ∀ piece ∈ layout origin diagnostic, piece.Plain := by
  have fixed : PlainText "error" ∧ PlainText "[" ∧ PlainText "]" ∧ PlainText ": " ∧
      PlainText "\n" ∧ PlainText " " := by decide
  have remarks : ∀ margin, PlainText margin →
      (∀ piece ∈ diagnostic.notes.flatMap (trailer margin "note" .bold), piece.Plain) ∧
      ∀ piece ∈ diagnostic.suggestions.flatMap (trailer margin "help" .help), piece.Plain :=
    fun margin plainMargin => ⟨plain_trailers plainMargin (by decide) plainDiagnostic.notes,
      plain_trailers plainMargin (by decide) plainDiagnostic.suggestions⟩
  have title : ∀ piece ∈ [styled .error "error", styled .bold ("[" ++ diagnostic.code.text ++ "]"),
      plain (": " ++ diagnostic.message ++ "\n")], piece.Plain := by
    simp [fixed, plainDiagnostic.message]
  have blank : ∀ piece ∈ [plain "\n"], piece.Plain := by
    simp [fixed]
  rw [layout]
  cases diagnostic.line with
  | none =>
      obtain ⟨notes, suggestions⟩ := remarks "  " (by decide)
      simp only [List.forall_mem_append]
      exact ⟨⟨⟨⟨title, List.forall_mem_nil _⟩, notes⟩, suggestions⟩, blank⟩
  | some line =>
      obtain ⟨notes, suggestions⟩ := remarks (gutter line ++ " ") (by simp [fixed])
      have place := plain_location plainOrigin plainDiagnostic line
      simp only [List.forall_mem_append]
      exact ⟨⟨⟨⟨title, place⟩, notes⟩, suggestions⟩, blank⟩

/-! ## Emissions -/

/-- One thing that is written: a diagnostic, with what is known about its source, or the closing
line about a number of errors. -/
inductive Emission where
  | diagnostic (origin : Origin) (told : Diagnostic)
  | summary (errors : Nat)

/-- The pieces of an emission. -/
def Emission.pieces : Emission → List Piece
  | diagnostic origin told => layout origin told
  | summary errors => Diagnostic.summary errors

/-- No text of an emission has an escape character. -/
def Emission.Plain : Emission → Prop
  | diagnostic origin told => origin.Plain ∧ told.Plain
  | summary _ => True

theorem Emission.Plain.pieces {emission : Emission} (plainEmission : emission.Plain) :
    ∀ piece ∈ emission.pieces, piece.Plain := by
  cases emission with
  | diagnostic origin told => exact plain_layout plainEmission.1 plainEmission.2
  | summary errors => exact plain_summary errors

/-- Colours are decoration.  Whatever diagnostics and summaries without escape characters are
written one after another, what is written with colours is what is written without when its
sequences are left out; and in all of it as in each part, each sequence that switches a style on is
followed by the one that switches every style off, before another one and before the end. -/
theorem write_colors_exact {emissions : List Emission}
    (plainEmissions : ∀ emission ∈ emissions, emission.Plain) :
    erase (write true (emissions.flatMap Emission.pieces)).toList =
        (write false (emissions.flatMap Emission.pieces)).toList ∧
      Closed (sequences (write true (emissions.flatMap Emission.pieces)).toList) ∧
      ∀ emission ∈ emissions, Closed (sequences (write true emission.pieces).toList) := by
  have plainPieces : ∀ piece ∈ emissions.flatMap Emission.pieces, piece.Plain := by
    intro piece member
    obtain ⟨emission, isEmission, member⟩ := List.mem_flatMap.mp member
    exact (plainEmissions emission isEmission).pieces piece member
  exact ⟨erase_write plainPieces, closed_write plainPieces,
    fun emission isEmission => closed_write (plainEmissions emission isEmission).pieces⟩

/-- A diagnostic whose texts look like the ends of sequences, and a summary behind it. -/
theorem write_colors_exact_brackets :
    let told : Diagnostic :=
      { code := .unclosedDelimiter, message := "[1m", line := some 2, label := some "m[0m",
        notes := ["["], suggestions := ["m"] }
    let origin : Origin := { source := some "a\n[31m (", path := some "[m" }
    let emissions : List Emission := [.diagnostic origin told, .summary 2]
    (∀ emission ∈ emissions, emission.Plain) ∧
      write true (emissions.flatMap Emission.pieces) =
        "\x1b[1;31merror\x1b[0m\x1b[1m[E0005]\x1b[0m: [1m\n --> [m:2\n\x1b[1;34m  |\x1b[0m\n" ++
          "\x1b[1;34m2 |\x1b[0m [31m (\n\x1b[1;34m  |\x1b[0m \x1b[1;31m^^^^^^ m[0m\x1b[0m\n" ++
          "\x1b[1;34m  |\x1b[0m\n  = \x1b[1mnote\x1b[0m: [\n  = \x1b[1;32mhelp\x1b[0m: m\n\n" ++
          "\x1b[1;31merror\x1b[0m: aborting due to 2 previous errors\n" ∧
      erase (write true (emissions.flatMap Emission.pieces)).toList =
        (write false (emissions.flatMap Emission.pieces)).toList ∧
      Closed (sequences (write true (emissions.flatMap Emission.pieces)).toList) ∧
      ∀ emission ∈ emissions, Closed (sequences (write true emission.pieces).toList) := by
  intro told origin emissions
  have plainTold : told.Plain := by
    constructor
    case message => decide
    case label => simpa [told] using (by decide : PlainText "m[0m")
    case notes => exact List.forall_mem_singleton.mpr (by decide)
    case suggestions => exact List.forall_mem_singleton.mpr (by decide)
  have plainOrigin : origin.Plain := by
    constructor
    case source => simpa [origin] using (by decide : PlainText "a\n[31m (")
    case path => simpa [origin] using (by decide : PlainText "[m")
  have plainEmissions : ∀ emission ∈ emissions, emission.Plain :=
    List.forall_mem_cons.mpr ⟨⟨plainOrigin, plainTold⟩, List.forall_mem_singleton.mpr trivial⟩
  exact ⟨plainEmissions, by decide +kernel, write_colors_exact plainEmissions⟩

end Focal.Diagnostic
