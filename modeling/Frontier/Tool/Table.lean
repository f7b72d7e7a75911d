import Frontier.Tool.Fields
import Frontier.Tool.Files
import Frontier.Tool.Grep
import Frontier.Tool.Numbers
import Frontier.Tool.Order
import Frontier.Tool.Running
import Frontier.Tool.Sed.Run
import Frontier.Tool.Simple
import Frontier.Tool.Streams

/-!
# The table of tools
-/

namespace Frontier.Tool

/-- Tools by their names. -/
def table : List (String × (Invocation → Plan Nat)) :=
  [("basename", basename), ("cat", cat), ("chmod", chmod), ("cp", cp), ("cut", cut), ("dirname", dirname), ("echo", echo),
    ("egrep", egrep), ("env", env), ("expr", expr), ("false", alwaysFalse), ("fgrep", fgrep), ("fold", fold), ("grep", grep),
    ("head", head), ("kill", kill), ("ln", ln), ("ls", ls), ("mkdir", mkdir), ("mktemp", mktemp), ("mv", mv), ("nice", nice),
    ("nl", nl), ("nohup", nohup), ("paste", paste), ("printf", printf), ("pwd", pwd), ("readlink", readlink), ("rev", rev),
    ("rm", rm), ("rmdir", rmdir), ("sed", sed), ("seq", seq), ("sleep", sleep), ("sort", sort), ("stdbuf", stdbuf), ("tac", tac),
    ("tail", tail), ("tee", tee), ("timeout", timeout), ("touch", touch), ("tr", tr), ("true", alwaysTrue), ("uniq", uniq),
    ("wc", wc), ("xargs", xargs), ("yes", yes)]

end Frontier.Tool
