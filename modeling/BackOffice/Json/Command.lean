import BackOffice.Command.Basic
import BackOffice.Json.Discount

/-!
# The JSON forms of commands

A command is written as an object of its words and what it has been given.
-/

namespace BackOffice.Command

/-- The words of a command. -/
def words : Command → String
  | .migrate [half] => "migrate " ++ half.name
  | .migrate _ => "migrate all"
  | .createUser .. => "user create"
  | .showUser _ => "user show"
  | .addAddress .. => "user address add"
  | .setDefault .. => "user address set-default"
  | .deleteAddress .. => "user address delete"
  | .createVoucher _ => "voucher create"
  | .showVoucher _ => "voucher show"
  | .updateVoucher .. => "voucher update"
  | .deleteVoucher _ => "voucher delete"
  | .changeVoucherScope .. => "voucher scope"
  | .createSale _ => "sale create"
  | .showSale _ => "sale show"
  | .updateSale .. => "sale update"
  | .deleteSale _ => "sale delete"
  | .changeSaleScope .. => "sale scope"

/-- A change of scope that a command asks for. -/
def scopeMembers (op : ScopeOp) (entities : CatalogueLists) : List (String × Json) :=
  [("scope_op", op.toJson), ("catalogue", CatalogueLists.toJson entities)]

/-- What a command has been given. -/
def members : Command → List (String × Json)
  | .migrate _ => []
  | .createUser firstName lastName =>
    [("first_name", .str firstName), ("last_name", .str lastName)]
  | .showUser id => [("user_id", id.toJson)]
  | .addAddress id kind replace data =>
    [("user_id", id.toJson), ("type", kind.toJson), ("default", .bool replace),
      ("address", data.toJson)]
  | .setDefault id address kind =>
    [("user_id", id.toJson), ("address_id", address.toJson), ("type", kind.toJson)]
  | .deleteAddress id address => [("user_id", id.toJson), ("address_id", address.toJson)]
  | .createVoucher input => [("input", input.toJson)]
  | .showVoucher id | .deleteVoucher id => [("id", id.toJson)]
  | .updateVoucher id update => [("id", id.toJson), ("update", update.touched)]
  | .changeVoucherScope id op entities => ("id", id.toJson) :: scopeMembers op entities
  | .createSale input => [("input", input.toJson)]
  | .showSale id | .deleteSale id => [("id", id.toJson)]
  | .updateSale id update => [("id", id.toJson), ("update", update.touched)]
  | .changeSaleScope id op entities => ("id", id.toJson) :: scopeMembers op entities

/-- An object of the words and what has been given. -/
def toJson (c : Command) : Json :=
  .obj (("command", .str c.words) :: c.members)

end BackOffice.Command
