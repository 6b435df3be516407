/-
# Where files of the program lie
-/
import PlainLink.Text.Basic

namespace PlainLink.Paths

def below (parent child : Text) : Text :=
  if parent.isEmpty || parent.getLast? == some '/' then parent ++ child
    else parent ++ '/' :: child

/-- The user's directory for the state of programs.  A relative one that the user
names does not count. -/
def stateHome (home : Text) (stateHome : Option Text) : Text :=
  match stateHome with
  | some path => if path.head? == some '/' then path else below home ".local/state".toList
  | none => below home ".local/state".toList

/-- The directory of the program in others. -/
def programName : Text := "urlscrub".toList

def logFile (home : Text) (state : Option Text) : Text :=
  below (below (below (stateHome home state) programName) programName) "urlscrub.log".toList

end PlainLink.Paths
