import DarkCore.Auth.SrpLogin
import DarkCore.Groups.RollBlocks
import DarkCore.Guilds.RankRights
import DarkCore.Pools.PoolLimits
import DarkCore.Shared.EventQueue
import DarkCore.Shared.EventAborts
import DarkCore.Guilds.BankMoney
import DarkCore.Guilds.EventLogs
import DarkCore.Parties.Members
import DarkCore.Parties.InviteRuns
import DarkCore.Looting.Counter
import DarkCore.Looting.Handouts
import DarkCore.Threat.Taunts
import DarkCore.Mails.UnreadRuns
import DarkCore.Auctions.Ledger
import DarkCore.Auctions.Goods
import DarkCore.Trades.Acceptance
import DarkCore.Battlegrounds.Resurrection
import DarkCore.Instances.ResetRuns
import DarkCore.Battlegrounds.InvitedRuns
import DarkCore.Movement.MotionRuns
import DarkCore.DungeonFinding.FirstFit
import DarkCore.Instances.InstanceIds
import DarkCore.Combat.Conservation
import DarkCore.Reputation.Restored
import DarkCore.Vehicles.Lookups
import DarkCore.Arenas.TeamRuns
import DarkCore.Channels.ChannelRuns
import DarkCore.DungeonFinding.BootRuns
import DarkCore.Battlegrounds.Balancing
import DarkCore.Battlegrounds.Ports
import DarkCore.Threat.Victims
import DarkCore.Looting.AutoStore
import DarkCore.Auctions.Rows
import DarkCore.Mails.MailList
import DarkCore.Pools.PoolCircles
import DarkCore.Pools.QuestGivers
import DarkCore.Pools.QuestSpawns
import DarkCore.LootTables.DropLimits
import DarkCore.LootTables.QuestDrops
import DarkCore.Groups.Looter
import DarkCore.Groups.Departures
import DarkCore.Guilds.Advancement
import DarkCore.Guilds.Validation
import DarkCore.Guilds.Allowances
import DarkCore.GameEvents.Delays
import DarkCore.World.Headers
import DarkCore.Shared.PackedGuids
import DarkCore.Player.BuyBack
import DarkCore.Player.Currency
import DarkCore.Shared.TimeString
import DarkCore.World.UpdateMask
import DarkCore.Combat.PeriodicTicks
import DarkCore.Instances.ResetWarnings
import DarkCore.Arenas.TeamLoading
import DarkCore.World.DisconnectTolerance
import DarkCore.Conditions.References
import DarkCore.Shared.WideStrings
import DarkCore.Battlegrounds.WaitTimes
import DarkCore.Social.PlayerSocial
import DarkCore.Groups.TargetIcons
import DarkCore.Threat.HateRuns
import DarkCore.Channels.BannedList
