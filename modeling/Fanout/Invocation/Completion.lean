import Fanout.Invocation.Basic

/-!
# Completion scripts

A script for each shell that offers the commands where a command is wanted.
-/
namespace Fanout.ScriptShell

def commandWords : List String := ["run", "ping", "hosts", "completions", "help"]

/-- The words between spaces. -/
def wordText : String := " ".intercalate commandWords

/-- The words in quotes. -/
def quotedWords (separator : String) : String :=
  separator.intercalate (commandWords.map fun w => "'" ++ w ++ "'")

def script : ScriptShell → String
  | .bash => "complete -W '" ++ wordText ++ "' gpcluster\n"
  | .elvish =>
    "set edit:completion:arg-completer[gpcluster] = \x7b|@words| put " ++ quotedWords " " ++ " \x7d\n"
  | .fish => "complete -c gpcluster -n __fish_use_subcommand -f -a '" ++ wordText ++ "'\n"
  | .powershell =>
    "Register-ArgumentCompleter -Native -CommandName 'gpcluster' -ScriptBlock \x7b " ++
      quotedWords ", " ++ " \x7d\n"
  | .zsh => "#compdef gpcluster\ncompadd " ++ wordText ++ "\n"

end Fanout.ScriptShell
