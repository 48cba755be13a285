import JobWatch.Number.Shortest
import JobWatch.Text.Search

/-!
Plain values: what a foreign call may hand over or throw in place of a proper error.
-/
namespace JobWatch

inductive Value where
  | null
  | flag (b : Bool)
  | number (x : Binary64)
  | text (s : String)
  | list (items : List Value)
  | record (fields : List (String × Value))
deriving BEq, Repr, Inhabited

namespace Value

mutual

/-- The value as text. Lists are joined with commas, and `null` inside a list is empty. -/
def describe : Value → String
  | .null => "null"
  | .flag b => if b then "true" else "false"
  | .number x => x.text
  | .text s => s
  | .list items => Text.join "," (describeItems items)
  | .record _ => "[object Object]"

def describeItems : List Value → List String
  | [] => []
  | .null :: rest => "" :: describeItems rest
  | item :: rest => describe item :: describeItems rest

end

end Value

end JobWatch
