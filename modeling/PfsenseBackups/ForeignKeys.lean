import PfsenseBackups.Tables

/-! What a database does to the rows that refer to deleted ones: rows of a cascading foreign key go
with them, and a key that is set to null leaves its row behind. -/

namespace PfsenseBackups.ForeignKeys
open Tables

variable {Row : Type*}

/-! ### Lists of rows -/

variable (gone : Nat → Bool)

/-- `ON DELETE CASCADE` -/
def cascade (refers : Row → Nat) (rows : List Row) : List Row :=
  rows.filter fun row => !gone (refers row)

/-- `ON DELETE SET NULL`; `clear` takes the reference out of a row. -/
def setNull (refers : Row → Option Nat) (clear : Row → Row) (row : Row) : Row :=
  if (refers row).any gone then clear row else row

variable {gone}

end PfsenseBackups.ForeignKeys
