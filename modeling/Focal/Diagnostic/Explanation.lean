import Focal.Diagnostic.Code

/-!
# Explanations

What each code means, with an example and a way to mend it, for a user who asks for it.
-/

namespace Focal.Diagnostic

/-- Lines of text, each with its line feed. -/
def joinLines (lines : List String) : String :=
  String.join (lines.map (· ++ "\n"))

/-- The text that explains a code. -/
def Code.explanation : Code → String
  | .unclosedString => joinLines [
      "# E0001: Unterminated String Literal",
      "",
      "A string literal was opened with `\"` but the source ended before the",
      "closing quote.",
      "",
      "```manta",
      "greet(\"hello)",
      "```",
      "",
      "The error points at the line where the string starts, which may be several",
      "lines above the end of the input because strings can span lines.",
      "",
      "## Solution",
      "",
      "Close the string:",
      "",
      "```manta",
      "greet(\"hello\")",
      "```",
      "",
      "A quote inside a string must be escaped as `\\\"`. An escaped character other",
      "than `\\n`, `\\r` or `\\t` stands for itself."]
  | .unexpectedCharacter => joinLines [
      "# E0002: Invalid Character",
      "",
      "The scanner found a character that cannot appear at this position.",
      "",
      "```manta",
      ".name",
      "player-name",
      "queue \"song\"",
      "```",
      "",
      "- A slot must start with a value: `this`, a name, a string, a number, a",
      "  group `(...)` or a block `\x7b...\x7d`. A leading `.` is not a value.",
      "- Names contain letters, digits, `_` and `$` only.",
      "- After a value only a call `(...)`, a member access `.name`, `,` or `;`",
      "  may follow.",
      "",
      "## Solution",
      "",
      "```manta",
      "this.name",
      "player_name",
      "queue.add(\"song\")",
      "```"]
  | .integerTooLarge => joinLines [
      "# E0003: Invalid Number Literal",
      "",
      "A numeric literal does not fit its type. Integer literals are signed 64-bit",
      "values.",
      "",
      "```manta",
      "9223372036854775808",
      "```",
      "",
      "## Solution",
      "",
      "Use a value in range (at most `9223372036854775807`), or pass large values",
      "in as strings and let the host convert them."]
  | .unfinishedNumber => joinLines [
      "# E0004: Incomplete Number Literal",
      "",
      "A number ends with a `.` that is followed by neither a digit nor a member",
      "name.",
      "",
      "```manta",
      "1.",
      "1. , 2",
      "```",
      "",
      "## Solution",
      "",
      "Complete the fraction, or remove the dot:",
      "",
      "```manta",
      "1.0",
      "1, 2",
      "```",
      "",
      "A `.` followed by a letter or `_` is member access on the integer, so",
      "`1.foo` is valid syntax (it fails when run, because integers are not",
      "containers)."]
  | .unclosedDelimiter => joinLines [
      "# E0005: Unbalanced Delimiter",
      "",
      "A group or block was opened but never closed.",
      "",
      "```manta",
      "queue.add(\"song\"",
      "\x7b this",
      "```",
      "",
      "The error points at the line of the opening `(` or `\x7b`. Delimiters inside",
      "string literals do not count, so `(\")\")` is balanced. A string left open",
      "inside a group also hides the group's closing delimiter and is reported",
      "here.",
      "",
      "## Solution",
      "",
      "Add the missing `)` or `\x7d`:",
      "",
      "```manta",
      "queue.add(\"song\")",
      "\x7b this \x7d",
      "```"]
  | .missingName => joinLines [
      "# E0006: Expected Identifier",
      "",
      "A member access `.` is not followed by a name.",
      "",
      "```manta",
      "player.",
      "1.5.3",
      "```",
      "",
      "After a float literal a second `.` starts a member access, so `1.5.3`",
      "reads as `1.5` followed by `.3`, and `3` is not a name.",
      "",
      "## Solution",
      "",
      "```manta",
      "player.name",
      "1.5",
      "```"]
  | .missingCapability => joinLines [
      "# E6001: Missing Capability",
      "",
      "An operation needs a capability the value does not have. Values are typed",
      "by what they can do:",
      "",
      "- calling `value(...)` needs a **callable**",
      "- member access `value.name` and bare names need a **container**",
      "",
      "```manta",
      "1.foo",
      "player.name()",
      "```",
      "",
      "Literal strings, integers and floats have neither capability.",
      "",
      "## Solution",
      "",
      "Call only callables and look names up only on containers. Check what the",
      "host exposes under the name you are using."]
  | .undefinedName => joinLines [
      "# E6002: Undefined Name",
      "",
      "A container lookup found nothing under the requested name.",
      "",
      "```manta",
      "plyer.name",
      "```",
      "",
      "Bare names are looked up on the receiver, not on the previous value. After",
      "`;` the focus returns to the receiver as well.",
      "",
      "## Solution",
      "",
      "Fix the spelling, or look the name up on the container that holds it:",
      "",
      "```manta",
      "player.name",
      "```"]
  | .hostFailure => joinLines [
      "# E6003: Host Error",
      "",
      "A callable or container supplied by the host failed. The message comes from",
      "the host.",
      "",
      "```manta",
      "sum(\"x\")",
      "```",
      "",
      "## Solution",
      "",
      "Read the host's message and notes. The `while running` notes name the",
      "step that invoked the failing callable."]
  | .unreadableSource => joinLines [
      "# E9001: Source File Could Not Be Read",
      "",
      "The `manta` driver could not read the script it was given. The file is",
      "missing, unreadable, or not valid UTF-8.",
      "",
      "```text",
      "$ manta run scirpt.manta",
      "error[E9001]: cannot find file 'scirpt.manta'",
      "```",
      "",
      "## Solution",
      "",
      "Check the path and the file's permissions. Scripts must be UTF-8 text. To",
      "try a one-liner without a file, use `manta eval`:",
      "",
      "```text",
      "$ manta eval '1, 2'",
      "```"]

/-- The codes that have an explanation. -/
def Code.explained : List Code :=
  Code.all

end Focal.Diagnostic
