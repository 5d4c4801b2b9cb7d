import ComponentFile.Awk.Run
import ComponentFile.Sed.Run
import ComponentFile.Tools.Blocks
import ComponentFile.Tools.Columns
import ComponentFile.Tools.Dates
import ComponentFile.Tools.Difference
import ComponentFile.Tools.Digest
import ComponentFile.Tools.Encoding
import ComponentFile.Tools.Factors
import ComponentFile.Tools.Grep
import ComponentFile.Tools.Identity
import ComponentFile.Tools.Launching
import ComponentFile.Tools.Order
import ComponentFile.Tools.Paragraphs
import ComponentFile.Tools.Relations
import ComponentFile.Tools.Streams
import ComponentFile.Tools.Walk

/-!
# Tools by name

## Main definitions

* `Tools.named?` : what the tool with a name does.
-/

namespace ComponentFile.Tools

/-- The tools that start no programs. -/
def simpleTools : List (String × Tool Nat) :=
  [("cat", cat), ("tac", tac), ("rev", rev), ("tee", tee), ("head", head), ("tail", tail),
    ("nl", nl), ("wc", wc), ("tr", tr), ("cut", cut), ("paste", paste), ("fold", fold),
    ("expand", expand), ("unexpand", unexpand), ("sort", sort), ("uniq", uniq), ("comm", comm),
    ("echo", echo), ("printf", printf), ("yes", yes), ("expr", expr), ("seq", seq),
    ("basename", basename), ("dirname", dirname), ("test", test), ("[", test),
    ("true", pure 0), ("false", pure 1), ("grep", grep 'G'), ("ls", ls), ("touch", touch),
    ("mkdir", mkdir), ("mktemp", mktemp), ("rm", rm), ("rmdir", rmdir), ("cp", cp), ("mv", mv),
    ("chmod", chmod), ("cmp", cmp), ("sed", sed), ("printenv", printenv), ("sleep", sleep),
    ("pwd", pwd), ("realpath", realpath), ("readlink", readlink),
    ("base64", baseTool .sixtyFour), ("base32", baseTool .thirtyTwo), ("od", od),
    ("cksum", cksum), ("sum", sum), ("diff", diff),
    ("dd", dd), ("split", split), ("truncate", truncate), ("date", date), ("factor", factor),
    ("id", Tools.id), ("whoami", whoami), ("groups", groups), ("logname", logname), ("tty", tty),
    ("uname", uname), ("arch", arch), ("stat", stat), ("link", link), ("unlink", unlink),
    ("fmt", fmt), ("join", join), ("tsort", tsort)] ++ digestTools

/-- The tools that start programs. -/
def startingTools : List (String × (Launcher → Tool ExitStatus)) :=
  [("env", env), ("timeout", timeout), ("nice", nice), ("nohup", nohup), ("stdbuf", stdbuf),
    ("xargs", fun launch => ending (xargs launch)), ("find", fun launch => ending (find launch)),
    ("awk", fun launch => ending (awk launch)),
    ("mawk", fun launch => ending (awk launch))]

/-- The tools that have other programs use their streams. -/
def passingTools : List String :=
  ["env", "timeout", "nice", "nohup", "stdbuf", "true", "false"]

/-- What the tool with a name does. -/
def named? (launch : Launcher) (name : Text) : Option (Tool ExitStatus) :=
  let name := String.ofList name
  let tool := match simpleTools.lookup name with
    | some tool => some (ending tool)
    | none => (startingTools.lookup name).map fun tool => tool launch
  if passingTools.contains name then tool else tool.map (Streams.checked name)

end ComponentFile.Tools
