import ModeSwitch.Host.Shell.Tools.Changing
import ModeSwitch.Host.Shell.Tools.Copying
import ModeSwitch.Host.Shell.Tools.Expr
import ModeSwitch.Host.Shell.Tools.Files
import ModeSwitch.Host.Shell.Tools.Grep
import ModeSwitch.Host.Shell.Tools.Moving
import ModeSwitch.Host.Shell.Tools.Parts
import ModeSwitch.Host.Shell.Tools.Surroundings
import ModeSwitch.Host.Shell.Tools.Words

/-! The programs that a shell finds on every host, by their names. -/

namespace ModeSwitch.Host.Shell.Tools

def all : List (String × Tool) :=
  [("true", fun _ _ => return 0), ("false", fun _ _ => return 1), ("cat", cat), ("tac", tac),
    ("tee", tee), ("head", head), ("tail", tail), ("wc", wc), ("cut", cut), ("fold", fold),
    ("paste", paste), ("tr", tr), ("sort", sort), ("uniq", uniq), ("grep", grep), ("expr", expr),
    ("echo", echo), ("printf", printf), ("seq", seq), ("test", test), ("[", bracket),
    ("basename", basename), ("dirname", dirname), ("printenv", printenv), ("pwd", pwd),
    ("sleep", sleep), ("ls", ls), ("touch", touch), ("rm", rm), ("rmdir", rmdir), ("mkdir", mkdir),
    ("cp", cp), ("mv", mv), ("ln", ln)]

end ModeSwitch.Host.Shell.Tools
