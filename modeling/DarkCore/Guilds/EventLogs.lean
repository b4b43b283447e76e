/-
The event log of a guild and the logs of its bank tabs (`Guild.cpp`,
`GuildMgr.cpp`): what is logged in a run of the server, and what a restart reads
back from the tables `guild_eventlog` and `guild_bank_eventlog`.
-/

import DarkCore.Guilds.LogHolder
import DarkCore.Lib.Runs

namespace DarkCore.Guilds

open Lib

/-! ### Settings -/

def guildEventlogMaxRecords : Nat := 100

def guildBanklogMaxRecords : Nat := 25

/-- The number of tabs of a bank, and the index of the money log (`GUILD_BANK_MAX_TABS`) -/
def moneyLogTab : Nat := 8

/-- The tab id of the money log in the database (`GUILD_BANK_MONEY_LOGS_TAB`) -/
def guildBankMoneyLogsTab : Nat := 100

/-- `Guild.EventLogRecordsCount` and `Guild.BankEventLogRecordsCount`, which count the records that
are stored. -/
structure LogSettings where
  eventLogRecordsCount : Nat
  bankEventLogRecordsCount : Nat
  eventsStored : 0 < eventLogRecordsCount
  bankEventsStored : 0 < bankEventLogRecordsCount

def atMostRecords (maxRecords recordsCount : Nat) : Nat :=
  if maxRecords < recordsCount then maxRecords else recordsCount

/-- `CONFIG_GUILD_EVENT_LOG_COUNT` -/
def LogSettings.eventLogCount (settings : LogSettings) : Nat :=
  atMostRecords guildEventlogMaxRecords settings.eventLogRecordsCount

/-- `CONFIG_GUILD_BANK_EVENT_LOG_COUNT` -/
def LogSettings.bankEventLogCount (settings : LogSettings) : Nat :=
  atMostRecords guildBanklogMaxRecords settings.bankEventLogRecordsCount

/-! ### Events -/

inductive GuildEventLogType where
  | invitePlayer | joinGuild | promotePlayer | demotePlayer | uninvitePlayer | leaveGuild
  deriving DecidableEq

inductive GuildBankEventLogType where
  | depositItem | withdrawItem | moveItem | depositMoney | withdrawMoney | repairMoney
  | moveItem2 | unk1 | unk2
  deriving DecidableEq

def GuildBankEventLogType.isMoneyEvent : GuildBankEventLogType → Bool
  | depositMoney | withdrawMoney | repairMoney => true
  | _ => false

structure GuildEvent where
  eventType : GuildEventLogType
  playerGuid1 : Nat
  playerGuid2 : Nat
  newRank : Nat
  deriving DecidableEq

structure BankEvent where
  eventType : GuildBankEventLogType
  bankTabId : Nat
  playerGuid : Nat
  itemOrMoney : Nat
  itemStackCount : Nat
  destTabId : Nat
  deriving DecidableEq

/-- A guild's logs with their rows. `inserted` and `bankInserted` record all events that were ever
added; no function of the server reads them. -/
structure EventLogs where
  purchasedTabs : Nat
  eventLog : LogHolder GuildEvent
  bankEventLog : Nat → LogHolder BankEvent
  guildEventlog : List (LogEntry GuildEvent)
  guildBankEventlog : List (LogEntry BankEvent)
  clock : Nat
  inserted : List (LogEntry GuildEvent)
  bankInserted : Nat → List (LogEntry BankEvent)

namespace EventLogs

variable {settings : LogSettings} {logs : EventLogs}

/-- `_CreateLogHolders` of a new guild -/
def create (settings : LogSettings) : EventLogs where
  purchasedTabs := 0
  eventLog := { maxRecords := settings.eventLogCount }
  bankEventLog _ := { maxRecords := settings.bankEventLogCount }
  guildEventlog := []
  guildBankEventlog := []
  clock := 0
  inserted := []
  bankInserted _ := []

def logEvent (event : GuildEvent) (logs : EventLogs) : EventLogs :=
  let entry := logs.eventLog.newEntry logs.clock event
  { logs with
    eventLog := logs.eventLog.getNextGUID.addEvent entry
    guildEventlog := saveToDB logs.guildEventlog entry
    inserted := logs.inserted ++ [entry] }

/-- `BankEventLogEntry::SaveToDB`: a guid is used once in each tab. -/
def saveBankEventToDB (rows : List (LogEntry BankEvent)) (entry : LogEntry BankEvent) :
    List (LogEntry BankEvent) :=
  rows.filter (fun row =>
    ¬ (row.guid = entry.guid ∧ row.content.bankTabId = entry.content.bankTabId)) ++ [entry]

/-- `AddEvent` of the log of a tab -/
def addBankEvent (tabId : Nat) (event : BankEvent) (logs : EventLogs) : EventLogs :=
  let entry := (logs.bankEventLog tabId).newEntry logs.clock event
  { logs with
    bankEventLog := Function.update logs.bankEventLog tabId
      ((logs.bankEventLog tabId).getNextGUID.addEvent entry)
    guildBankEventlog := saveBankEventToDB logs.guildBankEventlog entry
    bankInserted := Function.update logs.bankInserted tabId (logs.bankInserted tabId ++ [entry]) }

/-- `_LogBankEvent`: events about money have a log of their own. -/
def logBankEvent (eventType : GuildBankEventLogType)
    (tabId playerGuid itemOrMoney itemStackCount destTabId : Nat) (logs : EventLogs) : EventLogs :=
  if moneyLogTab < tabId then logs
  else
    if eventType.isMoneyEvent then
      logs.addBankEvent moneyLogTab
        ⟨eventType, guildBankMoneyLogsTab, playerGuid, itemOrMoney, itemStackCount, destTabId⟩
    else
      logs.addBankEvent tabId
        ⟨eventType, tabId, playerGuid, itemOrMoney, itemStackCount, destTabId⟩

/-! ### Restarts -/

def inOrder {α : Type} (rows : List (LogEntry α)) : List (LogEntry α) :=
  rows.insertionSort fun first second => newerOrSame first second = true

def loadBankEventLogFromDB (purchasedTabs : Nat) (holders : Nat → LogHolder BankEvent)
    (row : LogEntry BankEvent) : Nat → LogHolder BankEvent :=
  let isMoneyTab := row.content.bankTabId = guildBankMoneyLogsTab
  if row.content.bankTabId < purchasedTabs ∨ isMoneyTab then
    let tabId := if isMoneyTab then moneyLogTab else row.content.bankTabId
    if (holders tabId).canInsert then
      if row.content.eventType.isMoneyEvent then
        if isMoneyTab then Function.update holders tabId ((holders tabId).loadEvent row)
        else holders
      else if isMoneyTab then holders
      else Function.update holders tabId ((holders tabId).loadEvent row)
    else holders
  else holders

/-- The logs as `LoadGuilds` reads them, after it has deleted the rows that exceed the settings -/
def restart (settings : LogSettings) (logs : EventLogs) : EventLogs :=
  let eventRows := logs.guildEventlog.filter fun row => row.guid ≤ settings.eventLogCount
  let bankRows := logs.guildBankEventlog.filter fun row => row.guid ≤ settings.bankEventLogCount
  { logs with
    eventLog := (inOrder eventRows).foldl LogHolder.loadRow
      { maxRecords := settings.eventLogCount }
    bankEventLog := (inOrder bankRows).foldl (loadBankEventLogFromDB logs.purchasedTabs)
      fun _ => { maxRecords := settings.bankEventLogCount }
    guildEventlog := eventRows
    guildBankEventlog := bankRows }

/-! ### Runs -/

/-- What the server logs. Items are moved in tabs that were purchased (`SwapItems`,
`SwapItemsWithInventory`), money only if there is one. -/
inductive Action where
  | wait (seconds : Nat)
  | event (event : GuildEvent)
  | depositItem (tabId playerGuid entry count : Nat)
  | withdrawItem (tabId playerGuid entry count : Nat)
  | moveItem (tabId playerGuid entry count destTabId : Nat)
  | depositMoney (playerGuid amount : Nat)
  | withdrawMoney (playerGuid amount : Nat) (repair : Bool)
  | buyBankTab
  | restart

def logItem (eventType : GuildBankEventLogType) (tabId playerGuid entry count destTabId : Nat)
    (logs : EventLogs) : EventLogs :=
  if tabId < logs.purchasedTabs ∧ destTabId < logs.purchasedTabs then
    logs.logBankEvent eventType tabId playerGuid entry (count % 2 ^ 16) destTabId
  else logs

def logMoney (eventType : GuildBankEventLogType) (playerGuid amount : Nat) (logs : EventLogs) :
    EventLogs :=
  if logs.purchasedTabs = 0 then logs else logs.logBankEvent eventType 0 playerGuid amount 0 0

def next (settings : LogSettings) (logs : EventLogs) : Action → EventLogs
  | .wait seconds => { logs with clock := logs.clock + seconds }
  | .event event => logs.logEvent event
  | .depositItem tabId playerGuid entry count =>
    logs.logItem .depositItem tabId playerGuid entry count 0
  | .withdrawItem tabId playerGuid entry count =>
    logs.logItem .withdrawItem tabId playerGuid entry count 0
  | .moveItem tabId playerGuid entry count destTabId =>
    logs.logItem .moveItem tabId playerGuid entry count destTabId
  | .depositMoney playerGuid amount => logs.logMoney .depositMoney playerGuid amount
  | .withdrawMoney playerGuid amount repair =>
    logs.logMoney (if repair then .repairMoney else .withdrawMoney) playerGuid amount
  | .buyBankTab =>
    if logs.purchasedTabs < moneyLogTab then
      { logs with purchasedTabs := logs.purchasedTabs + 1 }
    else logs
  | .restart => logs.restart settings

/-! ### What is kept -/

theorem atMostRecords_bounds {maxRecords recordsCount : Nat} (kept : 0 < maxRecords)
    (small : maxRecords < guidUndefined) (stored : 0 < recordsCount) :
    ∃ capacity, atMostRecords maxRecords recordsCount = capacity + 1 ∧
      capacity < guidUndefined := by
  unfold atMostRecords
  split
  · exact ⟨maxRecords - 1, by omega, by omega⟩
  · exact ⟨recordsCount - 1, by omega, by omega⟩

theorem eventLogCount_bounds (settings : LogSettings) :
    ∃ capacity, settings.eventLogCount = capacity + 1 ∧ capacity < guidUndefined :=
  atMostRecords_bounds (by decide) (by decide) settings.eventsStored

theorem bankEventLogCount_bounds (settings : LogSettings) :
    ∃ capacity, settings.bankEventLogCount = capacity + 1 ∧ capacity < guidUndefined :=
  atMostRecords_bounds (by decide) (by decide) settings.bankEventsStored

def dbTabId (tabId : Nat) : Nat := if tabId = moneyLogTab then guildBankMoneyLogsTab else tabId

def tabRows (tabId : Nat) (rows : List (LogEntry BankEvent)) : List (LogEntry BankEvent) :=
  rows.filter fun row => row.content.bankTabId = dbTabId tabId

def WellPlaced (purchasedTabs : Nat) (event : BankEvent) : Prop :=
  if event.eventType.isMoneyEvent = true then event.bankTabId = guildBankMoneyLogsTab
  else event.bankTabId < purchasedTabs

structure Kept (settings : LogSettings) (logs : EventLogs) : Prop where
  tabs : logs.purchasedTabs ≤ moneyLogTab
  events : Consistent settings.eventLogCount logs.eventLog logs.guildEventlog logs.inserted
  bank : ∀ tabId ≤ moneyLogTab, Consistent settings.bankEventLogCount (logs.bankEventLog tabId)
    (tabRows tabId logs.guildBankEventlog) (logs.bankInserted tabId)
  placed : ∀ row ∈ logs.guildBankEventlog, WellPlaced logs.purchasedTabs row.content
  past : ∀ entry ∈ logs.inserted, entry.timestamp ≤ logs.clock
  bankPast : ∀ tabId, ∀ entry ∈ logs.bankInserted tabId, entry.timestamp ≤ logs.clock

theorem create_kept (settings : LogSettings) : Kept settings (create settings) where
  tabs := Nat.zero_le _
  events := Consistent.start _
  bank _ _ := Consistent.start _
  placed _ listed := absurd listed List.not_mem_nil
  past _ listed := absurd listed List.not_mem_nil
  bankPast _ _ listed := absurd listed List.not_mem_nil

/-! ### Rows of a tab -/

section Rows

variable {rows order : List (LogEntry BankEvent)} {entry row : LogEntry BankEvent}
  {purchasedTabs tabId : Nat}

theorem dbTabId_injective {first second : Nat} (isTab : first ≤ moneyLogTab)
    (isOther : second ≤ moneyLogTab) (same : dbTabId first = dbTabId second) : first = second := by
  unfold dbTabId at same
  unfold moneyLogTab at isTab isOther same
  unfold guildBankMoneyLogsTab at same
  split at same <;> split at same <;> omega

theorem tabRows_save_same (same : entry.content.bankTabId = dbTabId tabId) :
    tabRows tabId (saveBankEventToDB rows entry) = saveToDB (tabRows tabId rows) entry := by
  unfold tabRows saveBankEventToDB saveToDB
  rw [List.filter_append, List.filter_filter, List.filter_filter,
    List.filter_cons_of_pos (by simpa using same), List.filter_nil]
  congr 1
  apply List.filter_congr
  intro row _
  by_cases inTab : row.content.bankTabId = dbTabId tabId
  · simp [same, inTab]
  · simp [inTab]

theorem tabRows_save_other (other : entry.content.bankTabId ≠ dbTabId tabId) :
    tabRows tabId (saveBankEventToDB rows entry) = tabRows tabId rows := by
  unfold tabRows saveBankEventToDB
  rw [List.filter_append, List.filter_filter,
    List.filter_cons_of_neg (by simpa using other), List.filter_nil, List.append_nil]
  apply List.filter_congr
  intro row _
  by_cases inTab : row.content.bankTabId = dbTabId tabId
  · simp [inTab, Ne.symm other]
  · simp [inTab]

theorem mem_saveBankEventToDB (listed : row ∈ saveBankEventToDB rows entry) :
    row ∈ rows ∨ row = entry := by
  rcases List.mem_append.mp listed with old | new
  · exact Or.inl (List.mem_of_mem_filter old)
  · exact Or.inr (List.mem_singleton.mp new)

theorem WellPlaced.mono {event : BankEvent} {more : Nat} (placed : WellPlaced purchasedTabs event)
    (atLeast : purchasedTabs ≤ more) : WellPlaced more event := by
  unfold WellPlaced at placed ⊢
  split
  · simp_all
  · grind

theorem loadBankEventLogFromDB_placed (holders : Nat → LogHolder BankEvent)
    (placed : WellPlaced purchasedTabs row.content) (tabs : purchasedTabs ≤ moneyLogTab) :
    ∃ rowTab ≤ moneyLogTab, row.content.bankTabId = dbTabId rowTab ∧
      loadBankEventLogFromDB purchasedTabs holders row =
        Function.update holders rowTab ((holders rowTab).loadRow row) := by
  unfold loadBankEventLogFromDB LogHolder.loadRow
  unfold WellPlaced at placed
  dsimp only
  split at placed
  · rename_i isMoney
    refine ⟨moneyLogTab, Nat.le_refl _, placed, ?_⟩
    rw [if_pos (Or.inr placed), if_pos placed]
    split
    · rfl
    · exact (Function.update_eq_self _ _).symm
  · rename_i isItem
    have notMoneyTab : row.content.bankTabId ≠ guildBankMoneyLogsTab := by
      grind [moneyLogTab, guildBankMoneyLogsTab]
    refine ⟨row.content.bankTabId, by omega, (if_neg (by omega)).symm, ?_⟩
    rw [if_pos (Or.inl placed), if_neg notMoneyTab]
    split
    · rfl
    · exact (Function.update_eq_self _ _).symm

theorem foldl_loadBankEventLogFromDB {holders : Nat → LogHolder BankEvent}
    (placed : ∀ row ∈ order, WellPlaced purchasedTabs row.content) (tabs : purchasedTabs ≤ moneyLogTab)
    (isTab : tabId ≤ moneyLogTab) :
    order.foldl (loadBankEventLogFromDB purchasedTabs) holders tabId =
      (tabRows tabId order).foldl LogHolder.loadRow (holders tabId) := by
  induction order generalizing holders with
  | nil => rfl
  | cons row rest ih =>
    obtain ⟨rowTab, isRowTab, stored, loaded⟩ :=
      loadBankEventLogFromDB_placed holders (placed row List.mem_cons_self) tabs
    rw [List.foldl_cons, ih fun other listed => placed other (List.mem_cons_of_mem row listed),
      loaded]
    unfold tabRows
    by_cases same : rowTab = tabId
    · simp_all
    · have elsewhere : row.content.bankTabId ≠ dbTabId tabId := fun inTab =>
        same (dbTabId_injective isRowTab isTab (stored.symm.trans inTab))
      rw [Function.update_of_ne (Ne.symm same), List.filter_cons_of_neg (by simpa using elsewhere)]

end Rows

/-! ### Steps -/

section

variable (kept : Kept settings logs)
include kept

theorem wait_kept (seconds : Nat) :
    Kept settings { logs with clock := logs.clock + seconds } where
  tabs := kept.tabs
  events := kept.events
  bank := kept.bank
  placed := kept.placed
  past entry listed := Nat.le_add_right_of_le (kept.past entry listed)
  bankPast tabId entry listed := Nat.le_add_right_of_le (kept.bankPast tabId entry listed)

theorem buyBankTab_kept (room : logs.purchasedTabs < moneyLogTab) :
    Kept settings { logs with purchasedTabs := logs.purchasedTabs + 1 } where
  tabs := room
  events := kept.events
  bank := kept.bank
  placed row listed := (kept.placed row listed).mono (Nat.le_succ _)
  past := kept.past
  bankPast := kept.bankPast

theorem logEvent_kept (event : GuildEvent) :
    Kept settings (logs.logEvent event) := by
  obtain ⟨capacity, isCount, small⟩ := eventLogCount_bounds settings
  have events := kept.events
  rw [isCount] at events
  constructor
  case tabs => exact kept.tabs
  case events =>
    rw [isCount]
    exact events.add small logs.clock event kept.past
  case bank => exact kept.bank
  case placed => exact kept.placed
  case past =>
    intro entry listed
    rcases List.mem_append.mp listed with old | new
    · exact kept.past entry old
    · rw [List.mem_singleton.mp new]
      exact Nat.le_refl logs.clock
  case bankPast => exact kept.bankPast

theorem addBankEvent_kept {tabId : Nat} (isTab : tabId ≤ moneyLogTab)
    {event : BankEvent} (inTab : event.bankTabId = dbTabId tabId)
    (placed : WellPlaced logs.purchasedTabs event) :
    Kept settings (logs.addBankEvent tabId event) := by
  obtain ⟨capacity, isCount, small⟩ := bankEventLogCount_bounds settings
  constructor
  case tabs => exact kept.tabs
  case events => exact kept.events
  case bank =>
    intro other isOther
    have before := kept.bank other isOther
    unfold addBankEvent
    dsimp only
    by_cases same : other = tabId
    · subst same
      rw [Function.update_self, Function.update_self, tabRows_save_same inTab]
      rw [isCount] at before ⊢
      exact before.add small logs.clock event (kept.bankPast other)
    · have elsewhere : event.bankTabId ≠ dbTabId other := fun alsoInOther =>
        same (dbTabId_injective isOther isTab (alsoInOther.symm.trans inTab))
      rw [Function.update_of_ne same, Function.update_of_ne same, tabRows_save_other elsewhere]
      exact before
  case placed =>
    intro row listed
    rcases mem_saveBankEventToDB listed with old | new
    · exact kept.placed row old
    · rw [new]
      exact placed
  case past => exact kept.past
  case bankPast =>
    intro other entry listed
    unfold addBankEvent at listed ⊢
    dsimp only at listed ⊢
    by_cases same : other = tabId
    · subst same
      rw [Function.update_self] at listed
      rcases List.mem_append.mp listed with old | new
      · exact kept.bankPast other entry old
      · rw [List.mem_singleton.mp new]
        exact Nat.le_refl logs.clock
    · rw [Function.update_of_ne same] at listed
      exact kept.bankPast other entry listed

theorem logItem_kept {eventType : GuildBankEventLogType}
    (isItem : eventType.isMoneyEvent = false) (tabId playerGuid entry count destTabId : Nat) :
    Kept settings (logs.logItem eventType tabId playerGuid entry count destTabId) := by
  unfold logItem logBankEvent
  split
  · rename_i purchased
    have below : tabId < moneyLogTab := Nat.lt_of_lt_of_le purchased.1 kept.tabs
    rw [if_neg (by omega), if_neg (by rw [isItem]; exact Bool.false_ne_true)]
    refine addBankEvent_kept kept (le_of_lt below) (if_neg (by omega)).symm ?_
    unfold WellPlaced
    rw [if_neg (by rw [isItem]; exact Bool.false_ne_true)]
    exact purchased.1
  · exact kept

theorem logMoney_kept {eventType : GuildBankEventLogType}
    (isMoney : eventType.isMoneyEvent = true) (playerGuid amount : Nat) :
    Kept settings (logs.logMoney eventType playerGuid amount) := by
  unfold logMoney logBankEvent
  split
  · exact kept
  · rw [if_neg (Nat.not_lt_zero _)]
    refine addBankEvent_kept kept (Nat.le_refl _) (if_pos rfl).symm ?_
    unfold WellPlaced
    rw [if_pos isMoney]

end

/-! ### Logs that a restart restores -/

def Unmixed (logs : EventLogs) : Prop :=
  Unambiguous logs.eventLog.log ∧
    ∀ tabId ≤ moneyLogTab, Unambiguous (logs.bankEventLog tabId).log

def Restorable (logs : EventLogs) (action : Action) : Prop := action = .restart → Unmixed logs

def Exact (settings : LogSettings) (logs : EventLogs) : Prop :=
  ExactLog settings.eventLogCount logs.eventLog logs.guildEventlog logs.inserted ∧
    ∀ tabId ≤ moneyLogTab, ExactLog settings.bankEventLogCount (logs.bankEventLog tabId)
      (tabRows tabId logs.guildBankEventlog) (logs.bankInserted tabId)

theorem Kept.exact (kept : Kept settings logs) : Exact settings logs := by
  obtain ⟨_, isCount, _⟩ := eventLogCount_bounds settings
  obtain ⟨_, isBankCount, _⟩ := bankEventLogCount_bounds settings
  constructor
  · have events := kept.events
    rw [isCount] at events ⊢
    exact events.exactLog
  · intro tabId isTab
    have bank := kept.bank tabId isTab
    rw [isBankCount] at bank ⊢
    exact bank.exactLog

theorem WellPlaced.exists_tab {purchasedTabs : Nat} {event : BankEvent}
    (placed : WellPlaced purchasedTabs event) (tabs : purchasedTabs ≤ moneyLogTab) :
    ∃ tabId ≤ moneyLogTab, event.bankTabId = dbTabId tabId := by
  unfold WellPlaced at placed
  split at placed
  · exact ⟨moneyLogTab, Nat.le_refl _, placed⟩
  · exact ⟨event.bankTabId, by omega, (if_neg (by omega)).symm⟩

theorem Kept.all_rows (kept : Kept settings logs) :
    logs.guildEventlog.filter (fun row => row.guid ≤ settings.eventLogCount) =
        logs.guildEventlog ∧
      logs.guildBankEventlog.filter (fun row => row.guid ≤ settings.bankEventLogCount) =
        logs.guildBankEventlog := by
  constructor
  · obtain ⟨capacity, isCount, _⟩ := eventLogCount_bounds settings
    have events := kept.events
    rw [isCount] at events ⊢
    exact List.filter_eq_self.mpr fun row listed =>
      decide_eq_true (le_of_lt (events.guid_lt row listed))
  · obtain ⟨capacity, isCount, _⟩ := bankEventLogCount_bounds settings
    refine List.filter_eq_self.mpr fun row listed => decide_eq_true ?_
    obtain ⟨tabId, isTab, inTab⟩ := (kept.placed row listed).exists_tab kept.tabs
    have bank := kept.bank tabId isTab
    rw [isCount] at bank ⊢
    exact le_of_lt (bank.guid_lt row (List.mem_filter.mpr ⟨listed, decide_eq_true inTab⟩))

section Reloading

variable {tabId : Nat}

theorem inOrder_perm {α : Type} (rows : List (LogEntry α)) : (inOrder rows).Perm rows :=
  List.perm_insertionSort _ rows

theorem inOrder_pairwise {α : Type} (rows : List (LogEntry α)) :
    (inOrder rows).Pairwise fun first second => newerOrSame first second = true :=
  List.pairwise_insertionSort _ rows

section

variable (kept : Kept settings logs)
include kept

theorem Kept.restart_eventLog :
    (logs.restart settings).eventLog = (inOrder logs.guildEventlog).foldl LogHolder.loadRow
      { maxRecords := settings.eventLogCount } := by
  unfold restart
  rw [kept.all_rows.1]

theorem Kept.restart_bankEventLog (isTab : tabId ≤ moneyLogTab) :
    (logs.restart settings).bankEventLog tabId =
      (tabRows tabId (inOrder logs.guildBankEventlog)).foldl LogHolder.loadRow
        { maxRecords := settings.bankEventLogCount } := by
  unfold restart
  dsimp only
  rw [kept.all_rows.2, foldl_loadBankEventLogFromDB _ kept.tabs isTab]
  intro row listed
  exact kept.placed row ((inOrder_perm logs.guildBankEventlog).mem_iff.mp listed)

theorem restart_kept (unmixed : Unmixed logs) :
    Kept settings (logs.restart settings) := by
  constructor
  case tabs => exact kept.tabs
  case events =>
    obtain ⟨capacity, isCount, small⟩ := eventLogCount_bounds settings
    have events := kept.events
    have rows : (logs.restart settings).guildEventlog = logs.guildEventlog := kept.all_rows.1
    rw [kept.restart_eventLog, rows]
    rw [isCount] at events ⊢
    exact events.reload small unmixed.1 (inOrder_perm _) (inOrder_pairwise _)
  case bank =>
    intro tabId isTab
    obtain ⟨capacity, isCount, small⟩ := bankEventLogCount_bounds settings
    have bank := kept.bank tabId isTab
    have rows : (logs.restart settings).guildBankEventlog = logs.guildBankEventlog :=
      kept.all_rows.2
    rw [kept.restart_bankEventLog isTab, rows]
    rw [isCount] at bank ⊢
    exact bank.reload small (unmixed.2 tabId isTab) ((inOrder_perm _).filter _)
      ((inOrder_pairwise _).filter _)
  case placed =>
    intro row listed
    exact kept.placed row (List.mem_of_mem_filter listed)
  case past => exact kept.past
  case bankPast => exact kept.bankPast

theorem unmixed_of_restart
    (exact : Exact settings (logs.restart settings)) : Unmixed logs := by
  constructor
  · obtain ⟨capacity, isCount, small⟩ := eventLogCount_bounds settings
    have events := kept.events
    have restored := exact.1.log
    rw [kept.restart_eventLog] at restored
    rw [isCount] at events restored
    exact events.unambiguous small (inOrder_perm _) (inOrder_pairwise _) restored
  · intro tabId isTab
    obtain ⟨capacity, isCount, small⟩ := bankEventLogCount_bounds settings
    have bank := kept.bank tabId isTab
    have restored := (exact.2 tabId isTab).log
    rw [kept.restart_bankEventLog isTab] at restored
    rw [isCount] at bank restored
    exact bank.unambiguous small ((inOrder_perm _).filter _) ((inOrder_pairwise _).filter _)
      restored

end

end Reloading

/-! ### Runs -/

theorem next_kept (kept : Kept settings logs) {action : Action}
    (restorable : Restorable logs action) : Kept settings (logs.next settings action) := by
  cases action with
  | wait seconds => exact wait_kept kept seconds
  | event event => exact logEvent_kept kept event
  | depositItem tabId playerGuid entry count | withdrawItem tabId playerGuid entry count =>
    exact logItem_kept kept rfl tabId playerGuid entry count 0
  | moveItem tabId playerGuid entry count destTabId =>
    exact logItem_kept kept rfl tabId playerGuid entry count destTabId
  | depositMoney playerGuid amount => exact logMoney_kept kept rfl playerGuid amount
  | withdrawMoney playerGuid amount repair =>
    refine logMoney_kept kept ?_ playerGuid amount
    cases repair <;> rfl
  | buyBankTab =>
    unfold next
    dsimp only
    split
    · rename_i room
      exact buyBankTab_kept kept room
    · exact kept
  | restart => exact restart_kept kept (restorable rfl)

/-- The logs stay exact as long as every restart finds them unmixed, and the first one that does
not leaves them wrong. -/
theorem logs_exact (settings : LogSettings) (actions : List Action)
    (restorable : Along (next settings) Restorable (create settings) actions) :
    Always (next settings) (Exact settings) (create settings) actions ∧
      ∀ action, Exact settings
          (next settings (actions.foldl (next settings) (create settings)) action) ↔
        Restorable (actions.foldl (next settings) (create settings)) action := by
  have kept : Always (next settings) (Kept settings) (create settings) actions :=
    always_of_step (fun _ _ holds => next_kept holds) (create_kept settings) restorable
  refine ⟨kept.imp fun _ => Kept.exact, fun action => ?_⟩
  constructor
  · intro exact isRestart
    rw [isRestart] at exact
    exact unmixed_of_restart kept.last exact
  · intro meets
    exact (next_kept kept.last meets).exact

def shortLogs : LogSettings where
  eventLogRecordsCount := 2
  bankEventLogRecordsCount := 3
  eventsStored := by decide
  bankEventsStored := by decide

def twoSeconds : List Action :=
  [.buyBankTab, .depositMoney 1 10, .depositMoney 1 20, .withdrawMoney 1 5 false, .wait 1,
    .depositMoney 1 30, .event ⟨.joinGuild, 2, 0, 0⟩, .depositItem 0 1 25 3, .restart,
    .event ⟨.leaveGuild, 2, 0, 0⟩, .restart]

theorem twoSeconds_exact :
    Always (next shortLogs) (Exact shortLogs) (create shortLogs) twoSeconds := by
  refine (logs_exact shortLogs twoSeconds ?_).1
  have quiet {logs : EventLogs} {action : Action} (other : action ≠ .restart) :
      Restorable logs action := fun isRestart => absurd isRestart other
  refine ⟨quiet nofun, quiet nofun, quiet nofun, quiet nofun, quiet nofun, quiet nofun,
    quiet nofun, quiet nofun, fun _ => ?_, quiet nofun, fun _ => ?_, trivial⟩
  · unfold Unmixed Unambiguous
    decide +kernel
  · unfold Unmixed Unambiguous
    decide +kernel

def defaultLogs : LogSettings where
  eventLogRecordsCount := guildEventlogMaxRecords
  bankEventLogRecordsCount := guildBanklogMaxRecords
  eventsStored := by decide
  bankEventsStored := by decide

def afterDeposits (actions : List Action) : EventLogs :=
  (Action.buyBankTab :: List.replicate 26 (Action.depositMoney 1 10) ++ actions).foldl
    (next defaultLogs) (create defaultLogs)

/-- A restart lists the last deposit as the oldest, and the next one overwrites it. -/
theorem wrapped_within_a_second :
    ¬ Exact defaultLogs (afterDeposits [.restart]) ∧
      ¬ Exact defaultLogs (afterDeposits [.restart, .wait 1, .depositMoney 1 20]) := by
  constructor
  · intro exact
    have listed := congrArg (List.map LogEntry.guid) (exact.2 moneyLogTab (by decide)).log
    exact absurd listed (by decide +kernel)
  · intro exact
    exact absurd (exact.2 moneyLogTab (by decide)).retained (by decide +kernel)

end EventLogs

end DarkCore.Guilds
