import RbhTrade.Api.Bodies
import RbhTrade.Bot.Compensations
import RbhTrade.Bot.IntentIds
import RbhTrade.Canary.Budgets
import RbhTrade.Controlled.Environments
import RbhTrade.Feed.Receipts
import RbhTrade.Feed.Sequencer
import RbhTrade.Fencing.Commits
import RbhTrade.Fencing.Expiry
import RbhTrade.Ipc.Auth
import RbhTrade.Manual.Clocks
import RbhTrade.Manual.Exposures
import RbhTrade.Manual.FirstPermits
import RbhTrade.Manual.Lifecycle
import RbhTrade.Manual.Observations
import RbhTrade.Manual.PolicyTexts
import RbhTrade.Manual.Sealings
import RbhTrade.Operator.Arming
import RbhTrade.Query.Headers
import RbhTrade.Query.Texts
import RbhTrade.Settlement.CurveEffects
import RbhTrade.Settlement.Listing
import RbhTrade.Settlement.ManualReceipts
import RbhTrade.Settlement.Recoveries
import RbhTrade.Settlement.Reorgs
import RbhTrade.Settlement.Risks
