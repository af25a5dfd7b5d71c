import OracleCore.Chain.Box
import OracleCore.Chain.BoxSelector
import OracleCore.Chain.Transaction
import OracleCore.Chain.Ledger
import OracleCore.BoxKind.BuybackBox
import OracleCore.Refresh.Filter
import OracleCore.Refresh.Action
import OracleCore.Refresh.Conservation
import OracleCore.Refresh.Panics
import OracleCore.Refresh.Ledger
import OracleCore.Bootstrap.Chain
import OracleCore.Bootstrap.Budget
import OracleCore.Bootstrap.Submission
import OracleCore.Bootstrap.Spending
import OracleCore.Bootstrap.Panics
import OracleCore.Bootstrap.Conservation
import OracleCore.Bootstrap.Ledger
