import Loyalty.Order.Status

/-!
# The kinds of ledger entries

The amount of an entry is always above zero; its kind says whether it was credited or
withdrawn.
-/

namespace Loyalty

/-- What a ledger entry does to the balance. -/
inductive EntryKind where
  | accrual
  | withdrawal
  deriving DecidableEq, Repr

namespace EntryKind

/-- Both kinds, in the order in which they are listed to the reader. -/
def all : List EntryKind := [.accrual, .withdrawal]

def name : EntryKind → String
  | .accrual => "accrual"
  | .withdrawal => "withdrawal"

def ofName (value : String) : Except UnknownName EntryKind :=
  match all.find? fun k => k.name == value with
  | some k => .ok k
  | none => .error ⟨"transaction type", value⟩

end EntryKind

end Loyalty
