/-!
The command line: what the arguments ask for.
-/
namespace BridgeKeeper

inductive Command where
  | run
  | provision (account password : String)
  | version
deriving DecidableEq

namespace Command

inductive ParseError where
  | provisionArguments
  | unknown (word : String)
deriving DecidableEq

def ParseError.message : ParseError → String
  | provisionArguments => "provision expects <account> <password>"
  | unknown word => "Unknown command: " ++ word

def usage : String :=
  "Usage:\n" ++
  "  connbridge                                 restore the default bridge and probe connectivity\n" ++
  "  connbridge provision <account> <password>  fetch credentials into the host store\n" ++
  "  connbridge --version"

/-- Reads the arguments behind the program's name. -/
def parse : List String → Except ParseError Command
  | [] => .ok .run
  | word :: rest =>
    if word = "--version" ∨ word = "-V" then .ok .version
    else if word = "provision" then
      match rest with
      | [account, password] => .ok (.provision account password)
      | _ => .error .provisionArguments
    else .error (.unknown word)

end Command
end BridgeKeeper
