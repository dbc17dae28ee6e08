import Fanout.Host.Basic
import Fanout.Text.Replace

/-!
# Command templates

A template is the text of a command with places for what differs from host to host. The places are
filled one kind after the other, in the order of `placeholders`; a value a host does not have is
empty.
-/
namespace Fanout

/-- The places of a template, in the order in which they are filled, with a host's values. -/
def placeholders (h : Host) : List (String × String) :=
  [("\x7bhost\x7d", h.hostname), ("\x7bport\x7d", h.portText), ("\x7bcontent\x7d", h.contentText),
    ("\x7bdatadir\x7d", h.dataDirText), ("\x7brole\x7d", h.role.name)]

/-- The command of a host. -/
def expandTemplate (template : String) (h : Host) : String :=
  (placeholders h).foldl (fun text p => Text.replace p.1 p.2 text) template

end Fanout
