import A2AShim.Lib.ShellWords

/-!
# The command line of the agent

`AcpClient::spawn` puts the command and its arguments on one line, each between
double quotes, and the protocol crate splits the line into shell words again.
-/

namespace A2AShim

/-- What the command line is made of. -/
structure AcpClientConfig where
  command : String
  args : List String
  deriving DecidableEq, Repr

namespace AcpClientConfig

/-- An argument is put on the line as it is. -/
def pushArg (line arg : String) : String :=
  ((line.push ' ').push '"' ++ arg).push '"'

/-- `command_line` in `AcpClient::spawn`. -/
def commandLine (cfg : AcpClientConfig) : String :=
  if cfg.args = [] then
    cfg.command
  else
    cfg.args.foldl pushArg ("\"" ++ cfg.command ++ "\"")

/-- The program and the arguments that the agent is run with. -/
def agentWords (cfg : AcpClientConfig) : Option (List String) :=
  ShellWords.split cfg.commandLine

theorem toList_pushArgs (args : List String) (line : String) :
    (args.foldl pushArg line).toList =
      line.toList ++ ShellWords.quotedTail (args.map String.toList) := by
  induction args generalizing line with
  | nil => simp [ShellWords.quotedTail]
  | cons arg rest inductionHypothesis =>
      rw [List.foldl_cons, inductionHypothesis]
      simp [pushArg, ShellWords.quotedTail]

theorem toList_commandLine (command first : String) (rest : List String) :
    (commandLine { command, args := first :: rest }).toList =
      ShellWords.quotedLine command.toList
        ((first :: rest).map String.toList) := by
  have quote : ("\"" : String).toList = ['"'] := by decide
  simp only [commandLine, reduceCtorEq, if_false]
  rw [toList_pushArgs, String.toList_append, String.toList_append, quote]
  simp [ShellWords.quotedLine]

/-- The line is split as the list of its characters. -/
theorem agentWords_iff (command first : String) (rest : List String) :
    agentWords { command, args := first :: rest } =
        some (command :: first :: rest) ↔
      ShellWords.splitFrom .delimiter []
          (ShellWords.quotedLine command.toList
            ((first :: rest).map String.toList)) =
        some (command.toList :: (first :: rest).map String.toList) := by
  rw [agentWords, ShellWords.split, toList_commandLine,
    Option.map_eq_some_iff]
  constructor
  · rintro ⟨words, taken, same⟩
    rw [taken, ← List.map_cons (f := String.toList), ← same]
    simp
  · intro taken
    exact ⟨_, taken, by simp⟩

/-- The agent gets the command and the arguments as they are exactly when
none of them has a double quote, or a backslash that quotes. -/
theorem agent_words_exact_iff (command first : String) (rest : List String) :
    agentWords { command, args := first :: rest } =
        some (command :: first :: rest) ↔
      ∀ word, word ∈ command :: first :: rest →
        ShellWords.Plain word.toList := by
  rw [agentWords_iff, ShellWords.splitFrom_quotedLine_iff, ← List.map_cons]
  exact List.forall_mem_map

/-- The second argument comes out of the first, and a path that ends in a
backslash leaves its quotation open. -/
theorem quote_injects_argument :
    agentWords { command := "agent", args := ["a\" \"b"] } =
        some ["agent", "a", "b"] ∧
      agentWords { command := "agent", args := ["C:\\dir\\"] } = none ∧
      ¬ ∀ command first rest,
        agentWords { command, args := first :: rest } =
          some (command :: first :: rest) := by
  refine ⟨by decide, by decide, ?_⟩
  intro faithful
  have wrong := faithful "agent" "a\" \"b" []
  revert wrong
  decide

end AcpClientConfig

end A2AShim
