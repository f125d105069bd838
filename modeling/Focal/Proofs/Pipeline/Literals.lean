import Focal.Proofs.Eval.Blocks
import Focal.Proofs.Syntax.Encodings

/-!
# String literals

A literal that encodes a text compiles, and evaluates to this text on every receiver.  Conversely,
a literal that is scanned anywhere in a source ends at its first quote that is not escaped, and its
content encodes the text that it is read as (`string_literals_exact`).
-/

namespace Focal

open Source Source.Cursor Syntax
open Text (terminators)

/-- A literal is compiled to the text that it encodes. -/
theorem compile_string {ι : Type} {content text : String}
    (encodes : Encodes content.toList text.toList) :
    compile ("\"" ++ content ++ "\"") =
      .ok ([.replace ("str " ++ Text.quoted text) (.str text), .commit] :
        Pipeline ι (Value ι)) := by
  have literal : Derives (.term (.str (String.ofList text.toList)))
      ('"' :: content.toList ++ '"' :: []) [] :=
    .str (encodes_iff_spells.mp encodes)
  rw [String.ofList_toList] at literal
  exact compile_eq_ok_iff.mpr
    ⟨.last (.last (.term (.str text))), by simpa using literal.program_of_term, rfl⟩

theorem evaluate_string {σ ι : Type} (host : Host σ ι) (depth : Nat) (label text : String)
    (receiver : Value ι) (arguments : List (Value ι)) :
    host.evaluate depth [.replace label (.str text), .commit] receiver arguments =
      pure [.str text] :=
  rfl

/-- String literals decode exactly their encodings.  A quote, an encoding of a text and a quote
compile and evaluate to the text.  And from an opening quote at a cursor, a literal is accepted
exactly if there is a quote that is not escaped; the cursor is then left behind the first of these,
the content in front of it encodes the text that its escapes are decoded to, and this is the text
that the literal is read as. -/
theorem string_literals_exact (ι : Type) :
    (∀ content text : String, Encodes content.toList text.toList →
      ∃ pipeline : Pipeline ι (Value ι), compile ("\"" ++ content ++ "\"") = .ok pipeline ∧
        ∀ (σ : Type) (host : Host σ ι) (depth : Nat) (receiver : Value ι)
          (arguments : List (Value ι)),
          host.evaluate depth pipeline receiver arguments = pure [.str text]) ∧
    ∀ (source : String) (cursor : Cursor), cursor.StandsIn source →
      cursor.current = .ok byteQuote →
      ∃ before text first, source.toList = before ++ '"' :: text ∧
        cursor.position = (encode before).length ∧ cursor.skipByte = .ok first ∧
        (∀ content after, scanString first = .ok (some content, after) ↔
          (∃ rest, EndsString text content.toList rest) ∧
            after = { cursor with
              position := cursor.position + 1 + content.utf8ByteSize + 1
              line := cursor.line + terminators content.toList }) ∧
        ∀ content after, scanString first = .ok (some content, after) →
          Encodes content.toList (unescape false content.toList) ∧
            readString cursor = .ok (String.ofList (unescape false content.toList), after) := by
  constructor
  · intro content text encodes
    refine ⟨_, compile_string encodes, ?_⟩
    intro σ host depth receiver arguments
    exact evaluate_string host depth _ text receiver arguments
  · intro source cursor stands atQuote
    obtain ⟨before, rest, sourceEq, standsBetween⟩ := stands.exists_stands
    obtain ⟨text, rfl⟩ :=
      standsBetween.exists_cons (leadByte_beq '"' byteQuote rfl (by decide)) atQuote
    refine ⟨before, text, _, sourceEq, standsBetween.position_eq,
      (scanString_of_stands standsBetween).1, ?_, ?_⟩
    · intro content after
      exact scanString_eq_ok_iff standsBetween
    · intro content after scanned
      obtain ⟨⟨rest, ends⟩, -⟩ := (scanString_eq_ok_iff standsBetween).mp scanned
      exact ⟨encodes_of_endsString ends, readString_of_scanString standsBetween scanned⟩

/-- An escaped quote and an escaped letter, and a literal that ends behind two backslashes. -/
theorem string_literals_exact_escapes :
    let source := "\n\"a\\\\\"b"
    let cursor : Cursor := ⟨PaddedText.ofString source, 1, 0, 9⟩
    (Encodes "\\\"\\n".toList "\"\n".toList ∧
      ∃ pipeline : Pipeline Unit (Value Unit),
        compile ("\"" ++ "\\\"\\n" ++ "\"") = .ok pipeline ∧
          ∀ (host : Host Unit Unit) (depth : Nat) (receiver : Value Unit)
            (arguments : List (Value Unit)),
            host.evaluate depth pipeline receiver arguments = pure [.str "\"\n"]) ∧
      cursor.StandsIn source ∧ cursor.current = .ok byteQuote ∧
      Encodes "a\\\\".toList (unescape false "a\\\\".toList) ∧
      readString cursor = .ok ("a\\", { cursor with position := 6 }) := by
  intro source cursor
  obtain ⟨decoded, scanned⟩ := string_literals_exact Unit
  have encodes : Encodes "\\\"\\n".toList "\"\n".toList := .escaped (by decide) (.lineFeed .nil)
  obtain ⟨pipeline, compiled, evaluated⟩ := decoded _ _ encodes
  let behind := ['"', 'a', '\\', '\\', '"', 'b']
  have listEq : source.toList = ['\n'] ++ behind := String.toList_ofList
  have stands : cursor.StandsIn source := standsIn_of_cut listEq (by decide)
  have atQuote : cursor.current = .ok byteQuote :=
    @current_eq_ok cursor ['\n'] behind (by rw [← listEq, ← ofString_eq_padded]) rfl
  obtain ⟨before, text, first, sourceEq, positionEq, -, accepted, read⟩ :=
    scanned source cursor stands atQuote
  obtain ⟨rfl, textEq⟩ := cut_unique (listEq.symm.trans sourceEq) positionEq
  obtain rfl := (List.cons.inj textEq).2
  have ends : EndsString behind.tail "a\\\\".toList ['b'] := closeQuote_eq_some_iff.mp rfl
  obtain ⟨literalEncodes, readEq⟩ := read "a\\\\" _ ((accepted _ _).mpr ⟨⟨_, ends⟩, rfl⟩)
  exact ⟨⟨encodes, pipeline, compiled, evaluated Unit⟩, stands, atQuote, literalEncodes, readEq⟩

end Focal
