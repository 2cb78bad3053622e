import QuizBank.Bank.Storage
import QuizBank.Item.Generation

/-!
# Items from banks
-/

namespace QuizBank
namespace Bank

/-- The item of an entry and a seed. -/
def Entry.generate (e : Entry) (seed : String) : Except Error Item :=
  match e.requireTemplate with
  | .error e => .error e
  | .ok t => QuizBank.generate t seed

/-- The item of the entry with an id, in a bank of a directory. -/
def generate (fs : FileSystem) (directory : Path) (file id seed : String) : Except Error Item :=
  match read fs directory file with
  | .error e => .error e
  | .ok bank =>
    match bank.entry id with
    | .error e => .error e
    | .ok entry => entry.generate seed

end Bank
end QuizBank
