import Fanout.Shell.Octets

/-!
# Shell commands

Commands of the POSIX shell, and the words in them. A word is a row of pieces: text as it stands,
quoted text, and what is to be put in place of a parameter, a command or an arithmetic expression.
-/
namespace Fanout.Shell

inductive RedirectionKind where
  | input
  | output
  | append
  /-- Reads the text itself. -/
  | text
  /-- Opens what another descriptor has open. -/
  | duplicate
  deriving DecidableEq

/-- What happens to the value of a parameter before it is put in. -/
inductive ParameterUse where
  | plain
  | length
  | orDefault
  | assignDefault
  | orFail
  | alternative
  | cutSuffix (longest : Bool)
  | cutFront (longest : Bool)
  deriving DecidableEq

mutual

inductive Piece where
  | literal (text : Octets)
  | quoted (text : Octets)
  /-- What stands between double quotes. -/
  | double (pieces : List Piece)
  /-- A parameter; an empty value counts as unset if `colon`. -/
  | parameter (name : String) (use : ParameterUse) (colon : Bool) (word : List Piece)
  /-- The output of commands. -/
  | substitution (body : List Command)
  | arithmetic (expression : List Piece)
  /-- A parameter that is not one. -/
  | malformed

inductive Redirection where
  | mk (descriptor : Nat) (kind : RedirectionKind) (target : List Piece)

inductive Command where
  /-- Assignments and words, in the line in which they start. -/
  | simple (line : Nat) (assignments : List (String × List Piece)) (words : List (List Piece))
      (redirections : List Redirection)
  | pipeline (negated : Bool) (stages : List Command)
  | both (first second : Command)
  | either (first second : Command)
  | background (body : Command)
  | sequence (commands : List Command)
  | subshell (body : Command)
  | choice (branches : List (Command × Command)) (otherwise : Option Command)
  /-- Repeats the body while the condition's success is `wanted`. -/
  | loop (wanted : Bool) (condition body : Command)
  /-- Without words, the positional parameters. -/
  | each (name : String) (words : Option (List (List Piece))) (body : Command)
  | select (subject : List Piece) (branches : List (List (List Piece) × Command))
  | function (name : String) (body : Command)
  | redirected (body : Command) (redirections : List Redirection)

end

abbrev Word := List Piece

/-- Letters, digits and the underscore. -/
def isNameChar (c : Char) : Bool := c.isAlphanum || c == '_'

def isName (cs : Octets) : Bool :=
  match cs with
  | [] => false
  | c :: _ => !c.isDigit && cs.all isNameChar

def reservedWords : List String :=
  ["!", "\x7b", "\x7d", "case", "do", "done", "elif", "else", "esac", "fi", "for", "if", "in",
    "then", "until", "while"]

end Fanout.Shell
