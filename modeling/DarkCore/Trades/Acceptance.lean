/-
What both have agreed to. An acceptance is withdrawn when an offer is changed, but
an offer names its items only: the stacks can change in the inventory. Where they
do not, an exchange gives each side what it has accepted.
-/

import DarkCore.Lib.Runs
import DarkCore.Trades.Exchange
import Mathlib.Data.List.ReduceOption

namespace DarkCore.Trades

open DarkCore.Lib DarkCore.Items DarkCore.Player

/-! ### Deals -/

structure Deal where
  items : List (Option (Nat × Nat))
  gold : Nat
  deriving DecidableEq

def stackOf (item : Item) : Nat × Nat := (item.guid, item.count)

def dealOf (store : ItemStore) (slots : Place → Option Item) (trade : TradeData) : Deal where
  items := (trade.getItems store ⟨slots, 0⟩).map (·.map fun found => stackOf found.2)
  gold := trade.money

structure Session where
  table : Table
  mine : Option Deal
  his : Option Deal

inductive Action
  | initiate
  | cancel
  | setItem (tradeSlot : Nat) (position : Position) (checks : Checks)
  | clearItem (tradeSlot : Nat)
  | setGold (gold : Nat)
  | setSpell (spellId castItem : Nat)
  | accept (checks : Checks)
  | unaccept
  | split (source destination : Position) (count : Nat)
  /-- Anything else that is done to an inventory -/
  | rearrange (slots : Place → Option Item) (nextGuid : Nat)

inductive Side
  | player
  | trader

namespace Session

variable (store : ItemStore) (session : Session)

def swap : Session where
  table := session.table.swap
  mine := session.his
  his := session.mine

/-- A `TradeData` that is new -/
def newTrade : TradeData where
  accepted := false
  money := 0
  spell := 0
  spellCastItem := 0
  items _ := 0

def initiate : Session :=
  match session.table.player.trade, session.table.trader.trade with
  | none, none =>
    { session with
      table :=
        { session.table with
          player := { session.table.player with trade := some newTrade }
          trader := { session.table.trader with trade := some newTrade } } }
  | _, _ => session

/-- `Player::TradeCancel` -/
def cancel : Session :=
  { session with
    table :=
      { session.table with
        player := { session.table.player with trade := none }
        trader := { session.table.trader with trade := none } } }

def accept (checks : Checks) : Session :=
  match session.table.player.trade, session.table.trader.trade with
  | some _, some his =>
    { session with
      table := session.table.handleAcceptTrade store checks
      mine := some (dealOf store session.table.trader.slots his) }
  | _, _ => session

def rearrange (slots : Place → Option Item) (nextGuid : Nat) : Session :=
  { session with
    table :=
      { session.table with
        player := { session.table.player with slots := slots }
        nextGuid := nextGuid } }

def act : Action → Session
  | .initiate => session.initiate
  | .cancel => session.cancel
  | .setItem tradeSlot position checks =>
    { session with table := session.table.handleSetTradeItem store checks tradeSlot position }
  | .clearItem tradeSlot => { session with table := session.table.handleClearTradeItem tradeSlot }
  | .setGold gold => { session with table := session.table.handleSetTradeGold gold }
  | .setSpell spellId castItem => { session with table := session.table.setSpell spellId castItem }
  | .accept checks => session.accept store checks
  | .unaccept => { session with table := session.table.handleUnacceptTrade }
  | .split source destination count =>
    { session with table := session.table.splitItem store source destination count }
  | .rearrange slots nextGuid => session.rearrange slots nextGuid

def next (session : Session) (step : Side × Action) : Session :=
  match step.1 with
  | .player => session.act store step.2
  | .trader => (session.swap.act store step.2).swap

def seenBy (session : Session) : Side → Session
  | .player => session
  | .trader => session.swap

end Session

/-! ### What is said of an exchange -/

def Receives (seen : Option Deal) (items : List Item) (before paid after : Nat) : Prop :=
  ∃ deal, seen = some deal ∧ items.map stackOf = deal.items.reduceOption ∧
    after = before - paid + deal.gold

def Session.Serves (store : ItemStore) (session : Session) : Action → Prop
  | .accept checks =>
    ∀ mine his, session.table.player.trade = some mine → session.table.trader.trade = some his →
      session.table.agreement store checks mine his = .ok () →
      Receives (session.accept store checks).mine (session.table.moved store).toPlayer
          session.table.player.purse.money mine.money
          (session.accept store checks).table.player.purse.money ∧
        Receives (session.accept store checks).his (session.table.moved store).toTrader
          session.table.trader.purse.money his.money
          (session.accept store checks).table.trader.purse.money
  | _ => True

def allHanded (store : ItemStore) : Packs → List (Option Item × Option Item) → Bool
  | _, [] => true
  | packs, (mine, his) :: rest =>
    packs.bothCanTrade store mine his && allHanded store (packs.handOver store mine his) rest

def Session.Untouched (store : ItemStore) (session : Session) (slots : Place → Option Item) :
    Prop :=
  ∀ mine his, session.table.player.trade = some mine → session.table.trader.trade = some his →
    his.accepted = true → dealOf store slots mine = dealOf store session.table.player.slots mine

def Session.Undisturbed (store : ItemStore) (session : Session) : Action → Prop
  | .accept checks =>
    ∀ mine his, session.table.player.trade = some mine → session.table.trader.trade = some his →
      session.table.agreement store checks mine his = .ok () →
      allHanded store (session.table.emptied store) (session.table.pairs store) = true ∧
        session.table.player.purse.money ≤ maxMoneyAmount ∧
        session.table.trader.purse.money ≤ maxMoneyAmount ∧
        session.table.player.purse.money - mine.money + his.money ≤ maxMoneyAmount ∧
        session.table.trader.purse.money - his.money + mine.money ≤ maxMoneyAmount
  | .split source destination count =>
    session.Untouched store (session.table.splitItem store source destination count).player.slots
  | .rearrange slots _ => session.Untouched store slots
  | _ => True

/-! ### The invariant -/

structure Session.Agreed (store : ItemStore) (session : Session) : Prop where
  mine : ∀ trade other, session.table.player.trade = some trade →
    session.table.trader.trade = some other → trade.accepted = true →
    session.mine = some (dealOf store session.table.trader.slots other)
  his : ∀ trade other, session.table.trader.trade = some trade →
    session.table.player.trade = some other → trade.accepted = true →
    session.his = some (dealOf store session.table.player.slots other)

structure Table.Open (table : Table) : Prop where
  player : ∀ trade, table.player.trade = some trade → trade.accepted = false
  trader : ∀ trade, table.trader.trade = some trade → trade.accepted = false

variable {store : ItemStore} {session : Session} {table : Table} {checks : Checks}
  {mine his : Option Deal}

theorem Session.Agreed.swap (agreed : session.Agreed store) : session.swap.Agreed store where
  mine := agreed.his
  his := agreed.mine

theorem Table.Open.swap (isOpen : table.Open) : table.swap.Open where
  player := isOpen.trader
  trader := isOpen.player

theorem agreed_of_open (isOpen : table.Open) : Session.Agreed store ⟨table, mine, his⟩ where
  mine trade other isTrade _ accepted := by
    rw [isOpen.player trade isTrade] at accepted
    cases accepted
  his trade other isTrade _ accepted := by
    rw [isOpen.trader trade isTrade] at accepted
    cases accepted

theorem withdraw_open (table : Table) : table.withdraw.Open := by
  constructor
  · intro trade isTrade
    obtain ⟨old, _, isNew⟩ := Option.map_eq_some_iff.mp isTrade
    rw [← isNew]
  · intro trade isTrade
    obtain ⟨old, _, isNew⟩ := Option.map_eq_some_iff.mp isTrade
    rw [← isNew]

theorem setSpell_open (table : Table) (spellId castItem : Nat) :
    table.setSpell spellId castItem = table ∨ (table.setSpell spellId castItem).Open := by
  unfold Table.setSpell
  split
  · exact Or.inl rfl
  · split
    · exact Or.inl rfl
    · exact Or.inr (withdraw_open _)

theorem setSpell_keeps_open (isOpen : table.Open) (spellId castItem : Nat) :
    (table.setSpell spellId castItem).Open := by
  rcases setSpell_open table spellId castItem with same | opened
  · simp_all
  · exact opened

theorem setItem_open (table : Table) (slot : Fin tradeSlotCount) (itemGuid : Nat) :
    table.setItem slot itemGuid = table ∨ (table.setItem slot itemGuid).Open := by
  unfold Table.setItem
  split
  · exact Or.inl rfl
  · split
    · exact Or.inl rfl
    · right
      refine setSpell_keeps_open ?_ 0 0
      split
      · exact (setSpell_keeps_open (withdraw_open _).swap 0 0).swap
      · exact withdraw_open _

theorem setMoney_open (table : Table) (money : Nat) :
    table.setMoney money = table ∨ (table.setMoney money).Open := by
  unfold Table.setMoney
  split
  · exact Or.inl rfl
  · split
    · exact Or.inl rfl
    · exact Or.inr (withdraw_open _)

theorem agreed_of_change {after : Table} (agreed : session.Agreed store)
    (change : after = session.table ∨ after.Open) :
    Session.Agreed store { session with table := after } := by
  rcases change with same | opened
  · simp_all
  · exact agreed_of_open opened

/-! ### Requests -/

theorem agreement_error_open {mine his : TradeData} {left : Table}
    (refused : table.agreement store checks mine his = .error left) :
    left.Open ∨ left = table.setTrade { mine with accepted := true } ∨
      left = table.setTrade { mine with accepted := false } ∨
      left = ((table.setTrade { mine with accepted := true }).swap.setTrade
        { his with accepted := false }).swap := by
  have spell : ∀ start : Table, start.setSpell 0 0 = start ∨ (start.setSpell 0 0).Open :=
    fun start => setSpell_open start 0 0
  unfold Table.agreement at refused
  split at refused
  · simp_all
  · split at refused
    · simp_all
    · split at refused
      · simp_all
      · split at refused
        · simp_all
        · split at refused
          · cases refused
            rcases spell (table.setTrade { mine with accepted := true }) with same | opened
            · exact Or.inr (Or.inl same)
            · exact Or.inl opened
          · split at refused
            · cases refused
              rcases spell (table.setTrade { mine with accepted := true }).swap with same | opened
              · rw [same]
                exact Or.inr (Or.inl rfl)
              · exact Or.inl opened.swap
            · split at refused
              · cases refused
                exact Or.inl (withdraw_open _)
              · cases refused

section

variable (agreed : session.Agreed store)
include agreed

theorem agreed_withdrawn {trade : TradeData}
    (isMine : session.table.player.trade = some trade) (seen : Option Deal) :
    Session.Agreed store { session with
      table := session.table.setTrade { trade with accepted := false }
      mine := seen } := by
  constructor
  · intro mine other isTrade _ accepted
    rw [← Option.some.inj isTrade] at accepted
    cases accepted
  · intro his other isTrade isOther accepted
    rw [← Option.some.inj isOther]
    exact agreed.his his trade isTrade isMine accepted

theorem agreed_accept (checks : Checks) :
    (session.accept store checks).Agreed store := by
  unfold Session.accept
  split
  · rename_i mine his isMine isHis
    unfold Table.handleAcceptTrade
    rw [isMine, isHis]
    dsimp only
    split
    · rename_i left refused
      rcases agreement_error_open refused with opened | same | same | same
      · exact agreed_of_open opened
      · rw [same]
        constructor
        · intro trade other _ isOther _
          rw [Option.some.inj (isOther.symm.trans isHis)]
          rfl
        · intro trade other isTrade isOther accepted
          rw [← Option.some.inj isOther]
          exact agreed.his trade mine isTrade isMine accepted
      · rw [same]
        exact agreed_withdrawn agreed isMine _
      · rw [same]
        constructor
        · intro trade other _ isOther _
          rw [← Option.some.inj isOther]
          rfl
        · intro trade other isTrade _ accepted
          rw [← Option.some.inj isTrade] at accepted
          cases accepted
    · refine agreed_of_open ⟨?_, ?_⟩
      · intro trade isTrade
        cases isTrade
      · intro trade isTrade
        cases isTrade
  · exact agreed

theorem agreed_initiate : session.initiate.Agreed store := by
  unfold Session.initiate
  split
  · refine agreed_of_open ⟨?_, ?_⟩
    · intro trade isTrade
      rw [← Option.some.inj isTrade]
      rfl
    · intro trade isTrade
      rw [← Option.some.inj isTrade]
      rfl
  · exact agreed

theorem agreed_unaccept :
    Session.Agreed store { session with table := session.table.handleUnacceptTrade } := by
  unfold Table.handleUnacceptTrade
  split
  · exact agreed
  · rename_i mine isMine
    exact agreed_withdrawn agreed isMine _

theorem agreed_slots {after : Table}
    (playerTrade : after.player.trade = session.table.player.trade)
    (same : after.trader = session.table.trader)
    (untouched : session.Untouched store after.player.slots) :
    Session.Agreed store { session with table := after } := by
  constructor
  · intro trade other isTrade isOther accepted
    rw [playerTrade] at isTrade
    rw [same] at isOther ⊢
    exact agreed.mine trade other isTrade isOther accepted
  · intro trade other isTrade isOther accepted
    rw [same] at isTrade
    rw [playerTrade] at isOther
    rw [untouched other trade isOther isTrade accepted]
    exact agreed.his trade other isTrade isOther accepted

end

theorem splitItem_offers (table : Table) (source destination : Position) (count : Nat) :
    (table.splitItem store source destination count).player.trade = table.player.trade ∧
      (table.splitItem store source destination count).trader = table.trader := by
  unfold Table.splitItem
  split
  · exact ⟨rfl, rfl⟩
  · split
    · exact ⟨rfl, rfl⟩
    · grind

theorem agreed_act (agreed : session.Agreed store) (action : Action)
    (undisturbed : session.Undisturbed store action) : (session.act store action).Agreed store := by
  cases action with
  | initiate => exact agreed_initiate agreed
  | cancel =>
    refine agreed_of_open ⟨?_, ?_⟩
    · intro trade isTrade
      cases isTrade
    · intro trade isTrade
      cases isTrade
  | setItem tradeSlot position checks =>
    refine agreed_of_change agreed ?_
    unfold Table.handleSetTradeItem
    split
    · exact Or.inl rfl
    · split
      · split
        · exact Or.inl rfl
        · split
          · exact Or.inl rfl
          · split
            · exact Or.inl rfl
            · exact setItem_open _ _ _
      · exact Or.inl rfl
  | clearItem tradeSlot =>
    refine agreed_of_change agreed ?_
    unfold Table.handleClearTradeItem
    split
    · exact setItem_open _ _ _
    · exact Or.inl rfl
  | setGold gold => exact agreed_of_change agreed (setMoney_open _ _)
  | setSpell spellId castItem => exact agreed_of_change agreed (setSpell_open _ _ _)
  | accept checks => exact agreed_accept agreed checks
  | unaccept => exact agreed_unaccept agreed
  | split source destination count =>
    obtain ⟨playerTrade, same⟩ := splitItem_offers session.table source destination count
    exact agreed_slots agreed playerTrade same undisturbed
  | rearrange slots nextGuid => exact agreed_slots agreed rfl rfl undisturbed

/-! ### Exchanges -/

theorem moveItems_handed {packs : Packs} {pairs : List (Option Item × Option Item)}
    (handed : allHanded store packs pairs = true) :
    (Packs.moveItems store packs pairs).toPlayer =
        packs.toPlayer ++ (pairs.map Prod.snd).reduceOption ∧
      (Packs.moveItems store packs pairs).toTrader =
        packs.toTrader ++ (pairs.map Prod.fst).reduceOption := by
  induction pairs generalizing packs with
  | nil => exact ⟨(List.append_nil _).symm, (List.append_nil _).symm⟩
  | cons head rest ih =>
    obtain ⟨mine, his⟩ := head
    unfold allHanded at handed
    rw [Bool.and_eq_true] at handed
    obtain ⟨toPlayer, toTrader⟩ := ih handed.2
    have isMove : packs.moveItem store mine his = packs.handOver store mine his := by
      simp_all [Packs.moveItem]
    unfold Packs.moveItems
    rw [isMove, toPlayer, toTrader]
    constructor
    · have isFirst : (packs.handOver store mine his).toPlayer =
          packs.toPlayer ++ his.toList := by
        unfold Packs.handOver
        cases mine with
        | none =>
          cases his with
          | none => exact (List.append_nil _).symm
          | some item => rfl
        | some own =>
          cases his with
          | none => exact (List.append_nil _).symm
          | some item => rfl
      rw [isFirst, List.append_assoc, List.map_cons]
      cases his with
      | none => rfl
      | some item => rfl
    · have isFirst : (packs.handOver store mine his).toTrader =
          packs.toTrader ++ mine.toList := by
        unfold Packs.handOver
        cases mine with
        | none =>
          cases his with
          | none => exact (List.append_nil _).symm
          | some item => exact (List.append_nil _).symm
        | some own =>
          cases his with
          | none => rfl
          | some item => rfl
      rw [isFirst, List.append_assoc, List.map_cons]
      cases mine with
      | none => rfl
      | some item => rfl

theorem playerItems_of_trade {mine : TradeData} (isMine : table.player.trade = some mine) :
    table.playerItems store = mine.getItems store table.playerInventory := by
  unfold Table.playerItems
  rw [isMine]

theorem traderItems_of_trade {his : TradeData} (isHis : table.trader.trade = some his) :
    table.traderItems store = his.getItems store table.traderInventory := by
  unfold Table.traderItems
  rw [isHis]

theorem stacks_of_offer (store : ItemStore) (slots : Place → Option Item) (next : Nat)
    (trade : TradeData) :
    ((((trade.getItems store ⟨slots, next⟩).map (·.map (·.2))).reduceOption).map stackOf) =
      (dealOf store slots trade).items.reduceOption := by
  have sameItems : (dealOf store slots trade).items =
      ((trade.getItems store ⟨slots, next⟩).map (·.map (·.2))).map (·.map stackOf) := by
    rw [List.map_map]
    refine List.map_congr_left fun found _ => ?_
    exact (Option.map_map stackOf (·.2) found).symm
  rw [sameItems]
  exact List.reduceOption_map.symm

theorem served_accept (agreed : session.Agreed store)
    (undisturbed : session.Undisturbed store (.accept checks)) :
    session.Serves store (.accept checks) := by
  intro mine his isMine isHis agreement
  obtain ⟨handed, mineLimit, hisLimit, mineRoom, hisRoom⟩ :=
    undisturbed mine his isMine isHis agreement
  obtain ⟨mineEnough, hisEnough⟩ := agreement_enough agreement
  obtain ⟨toPlayer, toTrader⟩ := moveItems_handed handed
  have same : ((session.table.playerItems store).map (·.map (·.2))).length =
      ((session.table.traderItems store).map (·.map (·.2))).length := by
    rw [List.length_map, List.length_map, playerItems_of_trade isMine, traderItems_of_trade isHis,
      length_getItems, length_getItems]
  have isExchange : session.accept store checks =
      { session with
        table := session.table.exchange store mine his
        mine := some (dealOf store session.table.trader.slots his) } := by
    simp [Session.accept, Table.handleAcceptTrade, isMine, isHis, agreement]
  have accepted : his.accepted = true := by
    unfold Table.agreement at agreement
    dsimp only at agreement
    by_contra withdrawn
    rw [Bool.not_eq_true] at withdrawn
    rw [if_pos withdrawn] at agreement
    split at agreement
    · cases agreement
    · grind
  have mineLeft := Purse.modifyMoney_take mineLimit mineEnough
  have hisLeft := Purse.modifyMoney_take hisLimit hisEnough
  rw [isExchange]
  constructor
  · refine ⟨_, rfl, ?_, ?_⟩
    · rw [moved_eq, toPlayer]
      unfold Table.pairs
      rw [List.map_snd_zip (Nat.le_of_eq same.symm), traderItems_of_trade isHis]
      exact stacks_of_offer store session.table.trader.slots session.table.nextGuid his
    · have isAfter : (session.table.exchange store mine his).player.purse.money =
          ((session.table.player.purse.modifyMoney (-int32 mine.money)).modifyMoney
            (int32 his.money)).money := rfl
      rw [isAfter, Purse.modifyMoney_pos (by omega), mineLeft]
      rfl
  · refine ⟨_, agreed.his his mine isHis isMine accepted, ?_, ?_⟩
    · rw [moved_eq, toTrader]
      unfold Table.pairs
      rw [List.map_fst_zip (Nat.le_of_eq same), playerItems_of_trade isMine]
      exact stacks_of_offer store session.table.player.slots session.table.nextGuid mine
    · have isAfter : (session.table.exchange store mine his).trader.purse.money =
          ((session.table.trader.purse.modifyMoney (-int32 his.money)).modifyMoney
            (int32 mine.money)).money := rfl
      rw [isAfter, Purse.modifyMoney_pos (by omega), hisLeft]
      rfl

/-! ### Runs -/

theorem agreed_next (agreed : session.Agreed store) (step : Side × Action)
    (undisturbed : (session.seenBy step.1).Undisturbed store step.2) :
    (session.next store step).Agreed store := by
  obtain ⟨side, action⟩ := step
  cases side with
  | player => exact agreed_act agreed action undisturbed
  | trader => exact (agreed_act agreed.swap action undisturbed).swap

theorem Session.Agreed.seenBy (agreed : session.Agreed store) (side : Side) :
    (session.seenBy side).Agreed store := by
  cases side with
  | player => exact agreed
  | trader => exact agreed.swap

theorem served_next (agreed : session.Agreed store) (action : Action)
    (undisturbed : session.Undisturbed store action) : session.Serves store action := by
  cases action with
  | accept checks => exact served_accept agreed undisturbed
  | _ => exact trivial

def openSession (table : Table) : Session := ⟨table.withdraw, none, none⟩

theorem openSession_open (table : Table) : (openSession table).table.Open := withdraw_open table

def heapTable : Table where
  player :=
    { slots := backpack [(23, { guid := 1, entry := 118, count := 20 })]
      purse := Purse.setMoney 100
      trade := some (offerOf false 0 [1]) }
  trader :=
    { slots := backpack []
      purse := Purse.setMoney 100
      trade := some (offerOf false 0 []) }
  nextGuid := 2

def heapRun : List (Side × Action) :=
  [(.trader, .accept allowAll), (.player, .split (255, 23) (255, 24) 19),
    (.player, .accept allowAll)]

end DarkCore.Trades
