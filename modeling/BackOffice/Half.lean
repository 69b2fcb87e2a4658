/-!
# The two halves of the shop

Customers and their addresses belong to the storefront, staff and their discounts to the
administration. Each half has tables, settings and migrations of its own.
-/

namespace BackOffice

/-- The halves of the shop. -/
inductive Half where
  | storefront
  | admin
deriving DecidableEq, Repr

namespace Half

def name : Half → String
  | .storefront => "storefront"
  | .admin => "admin"

/-- The name of a half at the start of a sentence. -/
def title : Half → String
  | .storefront => "Storefront"
  | .admin => "Admin"

end Half

end BackOffice
