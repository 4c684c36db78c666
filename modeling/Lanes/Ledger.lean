import Lanes.Pool.Tasks

/-!
# Ledgers

A ledger keeps balances of 64 bits as bound objects. A request names an account and a change, which
wraps around at the ends of the range; accounts come into being with the balance zero.
-/
namespace Lanes.Ledger

/-- The balance after a change. -/
def post (account : ObjectId) (delta : Int64) (balances : Table Int64) : Int64 × Table Int64 :=
  let balance := (balances.get? account).getD 0 + delta
  (balance, balances.insert account balance)

/-- The handler of a pool that keeps a ledger. -/
def handler : Handler (ObjectId × Int64) Int64 Int64 Unit where
  process _ _ request balances memory :=
    let posted := post request.1 request.2 balances
    .done (.returned posted.1, posted.2, memory)

end Lanes.Ledger
