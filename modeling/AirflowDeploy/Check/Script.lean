import AirflowDeploy.Check.Outcome

/-!
# Check commands

The commands that a check container runs: one loads every DAG, the other runs the tests and
writes their exit status on the last line.
-/
namespace AirflowDeploy.Check

open Text

/-- A word for the shell: within single quotes, where a quote is closed, escaped and reopened. -/
def quote (word : String) : String :=
  String.ofList <| '\'' :: (word.toList.flatMap fun c =>
    if c = '\'' then ['\'', '\\', '\'', '\''] else [c]) ++ ['\'']

/-- The tests that run when no file is named. -/
def defaultTests : String := "tests/"

def testScript (file : Option String) : String :=
  "pytest --disable-warnings " ++ quote (file.getD defaultTests) ++
    "; echo \"" ++ marker ++ " $?\""

def testCommand (file : Option String) : List String := ["sh", "-c", testScript file]

/-- A program that loads the DAGs, prints their import errors and fails if there are any. -/
def parseProgram : String :=
  "import sys\n" ++
  "from airflow.models import DagBag\n" ++
  "bag = DagBag(\"dags\", include_examples=False)\n" ++
  "for path, error in bag.import_errors.items():\n" ++
  "    print(f\"\x7bpath\x7d: \x7berror\x7d\")\n" ++
  "print(f\"\x7blen(bag.dags)\x7d DAGs parsed, \x7blen(bag.import_errors)\x7d import errors\")\n" ++
  "sys.exit(1 if bag.import_errors else 0)\n"

def parseCommand : List String := ["python", "-c", parseProgram]

end AirflowDeploy.Check
