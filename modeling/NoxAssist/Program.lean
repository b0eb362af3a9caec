import NoxAssist.CommandLine
import NoxAssist.Offline
import NoxAssist.Server.Frame

namespace NoxAssist.Program

structure Outcome where
  code : Nat
  output : String
  errors : String
deriving DecidableEq, Repr

inductive Launch where
  | finish (outcome : Outcome)
  | serve (server : Server)

def name : String :=
  "noxscript-lsp"

def helpLines : List (String × String) :=
  [("      --builtins <FILE>", "Builtin function table (JSON) to use instead of the bundled one"),
    ("      --analyze <FILE> ",
      "Analyze a file and print declarations as JSON instead of serving LSP"),
    ("      --offset <N>     ",
      "Cursor byte offset for hover and signature help in --analyze mode"),
    ("  -h, --help           ", "Print help"),
    ("  -V, --version        ", "Print version")]

def help : String :=
  "Language server for NoxScript (hover, completion, signature help)\n\n"
    ++ "Usage: " ++ name ++ " [OPTIONS]\n\nOptions:\n"
    ++ String.join (helpLines.map fun (option, purpose) => option ++ "  " ++ purpose ++ "\n")

def usageOutcome : CommandLine.UsageError → Outcome
  | .help => ⟨0, help, ""⟩
  | .version => ⟨0, name ++ " " ++ serverVersion ++ "\n", ""⟩
  | _ => ⟨2, "", "error: the arguments are not valid\n\nFor more information, try '--help'.\n"⟩

def launch {m : Type → Type} [Monad m] (readFile : String → m (Except ReadFault String))
    (arguments : List String) : m Launch := do
  match CommandLine.parse arguments with
  | .error error => return .finish (usageOutcome error)
  | .ok options =>
    match ← loadBuiltins readFile options.builtins with
    | .error fault => return .finish ⟨2, "", name ++ ": " ++ fault.message ++ "\n"⟩
    | .ok registry =>
      match options.analyze with
      | none => return .serve (Server.ofRegistry registry)
      | some path =>
        match ← analyzeFile readFile registry path options.offset with
        | .error fault =>
          return .finish ⟨2, "", name ++ " analyze error: " ++ fault.message ++ "\n"⟩
        | .ok text => return .finish ⟨0, text ++ "\n", ""⟩

def run (directory : Node) (arguments : List String) (input : List UInt8) : Outcome :=
  match launch (m := Id) directory.read arguments with
  | .finish outcome => outcome
  | .serve server => ⟨0, server.serveBodies (Frame.bodies input), ""⟩

end NoxAssist.Program
