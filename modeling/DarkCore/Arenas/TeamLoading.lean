/-
Loading the arena teams (`ObjectMgr.cpp`, `ArenaTeam.cpp`). The rows of the teams
and those of the members are read by two cursors; a cursor is the list of the rows
that are still to come.
-/

import DarkCore.Arenas.ArenaTeam

namespace DarkCore.Arenas

structure ArenaTeamRow where
  teamId : Nat
  teamName : String
  captainGuid : Nat
  type : Nat

structure ArenaMemberRow where
  teamId : Nat
  guid : Nat
  deriving DecidableEq

/-- How the loading of a team ends; `read` are the rows that its loop has gone past. -/
structure TeamLoad where
  team : ArenaTeam
  captainPresentInTeam : Bool
  read : List ArenaMemberRow
  deriving DecidableEq

def loadArenaTeamFromDB (row : ArenaTeamRow) : TeamLoad :=
  ⟨⟨row.teamId, row.type, row.teamName, row.captainGuid, []⟩, false, []⟩

def TeamLoad.isLoaded (load : TeamLoad) : Bool :=
  load.team.members ≠ [] && load.captainPresentInTeam

def TeamLoad.push (load : TeamLoad) (newMember : ArenaTeamMember) : TeamLoad :=
  { load with
    captainPresentInTeam := load.captainPresentInTeam || newMember.guid = load.team.captainGuid
    team := { load.team with members := load.team.members ++ [newMember] } }

section Loading

variable (characterName : Nat → String)

/-- The loop of `LoadMembersFromDB`. The name of a row is that of the character, empty without one;
at the end `Fetch` gives no row. -/
def loadMembers (load : TeamLoad) : List ArenaMemberRow → TeamLoad × List ArenaMemberRow
  | [] => (load, [])
  | row :: rest =>
    if load.team.teamId < row.teamId then (load, row :: rest)
    else
      let load := { load with read := load.read ++ [row] }
      let name := characterName row.guid
      if name = "" then loadMembers { load with team := load.team.eraseMember row.guid } rest
      else loadMembers (load.push ⟨row.guid, name⟩) rest

/-- The loop of `LoadArenaTeams`; there is no cursor when the query gives no row. -/
def loadTeams : List ArenaTeamRow → Option (List ArenaMemberRow) → List TeamLoad
  | [], _ => []
  | team :: teams, none => loadArenaTeamFromDB team :: loadTeams teams none
  | team :: teams, some rows =>
    let (load, rows) := loadMembers characterName (loadArenaTeamFromDB team) rows
    load :: loadTeams teams (some rows)

def loadArenaTeams (teams : List ArenaTeamRow) (rows : List ArenaMemberRow) : List TeamLoad :=
  loadTeams characterName teams (if rows = [] then none else some rows)

def memberRows (rows : List ArenaMemberRow) (teamId : Nat) : List ArenaMemberRow :=
  rows.filter fun row => row.teamId = teamId ∧ characterName row.guid ≠ ""

def TeamLoad.after (load : TeamLoad) (own : List ArenaMemberRow) : TeamLoad :=
  let named := own.filter fun row => characterName row.guid ≠ ""
  let members := named.map fun row => ⟨row.guid, characterName row.guid⟩
  ⟨{ load.team with members := load.team.members ++ members },
    load.captainPresentInTeam || named.any fun row => row.guid = load.team.captainGuid,
    load.read ++ own⟩

variable {characterName}

theorem loadMembers_eq (own later : List ArenaMemberRow) (load : TeamLoad)
    (named : ∀ member ∈ load.team.members, characterName member.guid ≠ "")
    (isOwn : ∀ row ∈ own, row.teamId = load.team.teamId)
    (isLater : ∀ row ∈ later, load.team.teamId < row.teamId) :
    loadMembers characterName load (own ++ later) = (load.after characterName own, later) := by
  induction own generalizing load with
  | nil =>
      cases later with
      | nil => simp [loadMembers, TeamLoad.after]
      | cons row rest => simp [loadMembers, TeamLoad.after, isLater row List.mem_cons_self]
  | cons row rest induction =>
      have first := isOwn row List.mem_cons_self
      have others : ∀ other ∈ rest, other.teamId = load.team.teamId :=
        fun other member => isOwn other (List.mem_cons_of_mem row member)
      rw [List.cons_append, loadMembers, if_neg (by omega)]
      dsimp only
      split
      · rename_i nameless
        -- Nobody of that guid has been loaded.
        have absent : load.team.eraseMember row.guid = load.team := by
          unfold ArenaTeam.eraseMember
          rw [List.eraseP_of_forall_not]
          intro member isMember same
          exact named member isMember (by simpa [of_decide_eq_true same] using nameless)
        simp only [absent]
        rw [induction { load with read := load.read ++ [row] } named others isLater]
        simp [TeamLoad.after, nameless]
      · rename_i name
        have stillNamed : ∀ member ∈ load.team.members ++ [⟨row.guid, characterName row.guid⟩],
            characterName member.guid ≠ "" := by
          intro member isMember
          obtain old | new := List.mem_append.mp isMember
          · exact named member old
          · rw [List.mem_singleton.mp new]
            exact name
        rw [induction (TeamLoad.push ⟨load.team, load.captainPresentInTeam, load.read ++ [row]⟩
          ⟨row.guid, characterName row.guid⟩) stillNamed others isLater]
        simp only [TeamLoad.after, TeamLoad.push, List.filter_cons, name, ne_eq, not_false_eq_true,
          decide_true, if_true, List.any_cons, Bool.or_assoc, List.map_cons, List.append_assoc,
          List.singleton_append]
        rfl

theorem own_append_others {rows : List ArenaMemberRow} {teamId : Nat}
    (sorted : rows.Pairwise (·.teamId ≤ ·.teamId)) (least : ∀ row ∈ rows, teamId ≤ row.teamId) :
    rows = rows.filter (·.teamId = teamId) ++ rows.filter (·.teamId ≠ teamId) := by
  induction rows with
  | nil => rfl
  | cons row rest induction =>
      have later := induction sorted.of_cons fun other member => least other (.tail row member)
      by_cases own : row.teamId = teamId
      · simpa [own] using later
      · have none : rest.filter (·.teamId = teamId) = [] := by
          rw [List.filter_eq_nil_iff]
          intro other member
          have first := least row List.mem_cons_self
          have order := List.rel_of_pairwise_cons sorted member
          simp only [decide_eq_true_eq]
          omega
        rw [none] at later
        simpa [own, none] using later

theorem loadTeams_none (teams : List ArenaTeamRow) :
    loadTeams characterName teams none =
      teams.map fun team => (loadArenaTeamFromDB team).after characterName [] := by
  induction teams with
  | nil => rfl
  | cons team teams induction =>
      simp only [loadTeams, List.map_cons, induction]
      simp [TeamLoad.after]

theorem loadTeams_some (teams : List ArenaTeamRow) (rows : List ArenaMemberRow)
    (ascending : teams.Pairwise (·.teamId < ·.teamId))
    (sorted : rows.Pairwise (·.teamId ≤ ·.teamId))
    (known : ∀ row ∈ rows, ∃ team ∈ teams, team.teamId = row.teamId) :
    loadTeams characterName teams (some rows) = teams.map (fun team =>
        (loadArenaTeamFromDB team).after characterName (rows.filter (·.teamId = team.teamId))) ∧
      (teams.flatMap fun team => rows.filter (·.teamId = team.teamId)) = rows := by
  induction teams generalizing rows with
  | nil =>
      refine ⟨rfl, ?_⟩
      cases rows with
      | nil => rfl
      | cons row rest => simpa using known row List.mem_cons_self
  | cons team teams induction =>
      have smaller : ∀ other ∈ teams, team.teamId < other.teamId :=
        fun other member => List.rel_of_pairwise_cons ascending member
      have least : ∀ row ∈ rows, team.teamId ≤ row.teamId := by
        intro row member
        obtain ⟨other, isTeam, same⟩ := known row member
        obtain rfl | later := List.mem_cons.mp isTeam
        · exact Nat.le_of_eq same
        · exact same ▸ Nat.le_of_lt (smaller other later)
      have parts := own_append_others sorted least
      have loads := @loadMembers_eq characterName
        (rows.filter (·.teamId = team.teamId)) (rows.filter (·.teamId ≠ team.teamId))
        (loadArenaTeamFromDB team) (by simp [loadArenaTeamFromDB])
        (by simp [loadArenaTeamFromDB]) (by
          intro row member
          obtain ⟨isRow, other⟩ := List.mem_filter.mp member
          exact Nat.lt_of_le_of_ne (least row isRow) (Ne.symm (of_decide_eq_true other)))
      rw [← parts] at loads
      obtain ⟨rest, all⟩ := induction (rows.filter (·.teamId ≠ team.teamId)) ascending.of_cons
        (sorted.filter _) (by
          intro row member
          obtain ⟨isRow, other⟩ := List.mem_filter.mp member
          obtain ⟨owner, isTeam, same⟩ := known row isRow
          obtain rfl | later := List.mem_cons.mp isTeam
          · exact absurd same.symm (of_decide_eq_true other)
          · exact ⟨owner, later, same⟩)
      have same (other : ArenaTeamRow) (member : other ∈ teams) :
          (rows.filter (·.teamId ≠ team.teamId)).filter (·.teamId = other.teamId) =
            rows.filter (·.teamId = other.teamId) := by
        have less := smaller other member
        rw [List.filter_filter]
        apply List.filter_congr
        intro row _
        by_cases own : row.teamId = other.teamId
        · simp [own, Nat.ne_of_gt less]
        · simp [own]
      constructor
      · rw [loadTeams, loads]
        simp only [List.map_cons, rest, List.cons.injEq, true_and]
        exact List.map_congr_left fun other member => by rw [same other member]
      · rw [List.flatMap_cons, ← List.flatMap_congr fun other member => same other member, all]
        exact parts.symm

/-- Every team is given the rows of its own id that have a character, in one pass over the rows,
and it is kept exactly if the captain is among them. -/
theorem loadArenaTeams_merges (characterName : Nat → String) (teams : List ArenaTeamRow)
    (rows : List ArenaMemberRow) (ascending : teams.Pairwise (·.teamId < ·.teamId))
    (sorted : rows.Pairwise (·.teamId ≤ ·.teamId))
    (known : ∀ row ∈ rows, ∃ team ∈ teams, team.teamId = row.teamId) :
    let loads := loadArenaTeams characterName teams rows
    loads.map TeamLoad.team = teams.map (fun team =>
        ⟨team.teamId, team.type, team.teamName, team.captainGuid,
          (memberRows characterName rows team.teamId).map fun row =>
            ⟨row.guid, characterName row.guid⟩⟩) ∧
      loads.map TeamLoad.read = teams.map (fun team => rows.filter (·.teamId = team.teamId)) ∧
      loads.flatMap TeamLoad.read = rows ∧
      loads.map TeamLoad.isLoaded = teams.map (fun team =>
        (memberRows characterName rows team.teamId).any fun row => row.guid = team.captainGuid) := by
  obtain ⟨loads, all⟩ : loadArenaTeams characterName teams rows = teams.map (fun team =>
        (loadArenaTeamFromDB team).after characterName (rows.filter (·.teamId = team.teamId))) ∧
      (teams.flatMap fun team => rows.filter (·.teamId = team.teamId)) = rows := by
    unfold loadArenaTeams
    split
    · rename_i none
      simp [none, loadTeams_none]
    · exact loadTeams_some teams rows ascending sorted known
  have own (team : ArenaTeamRow) :
      (rows.filter (·.teamId = team.teamId)).filter (fun row => characterName row.guid ≠ "") =
        memberRows characterName rows team.teamId := by
    rw [List.filter_filter]
    simp [memberRows, Bool.and_comm]
  simp only [loads, List.map_map, List.flatMap_map]
  refine ⟨List.map_congr_left fun team _ => ?_, List.map_congr_left fun team _ => ?_, ?_,
    List.map_congr_left fun team _ => ?_⟩
  · simp only [Function.comp_apply, TeamLoad.after, own]
    rfl
  · rfl
  · exact all
  · simp only [Function.comp_apply, TeamLoad.isLoaded, TeamLoad.after, own, loadArenaTeamFromDB]
    cases memberRows characterName rows team.teamId with
    | nil => rfl
    | cons row rest =>
        simp only [List.map_cons, List.nil_append, ne_eq, reduceCtorEq, not_false_eq_true,
          decide_true, Bool.true_and, Bool.false_or]
        rfl

end Loading

theorem loadArenaTeams_merges_three :
    (loadArenaTeams (fun guid => if guid = 9 then "" else "A")
      [⟨1, "X", 5, 2⟩, ⟨2, "Y", 6, 2⟩, ⟨3, "Z", 7, 2⟩]
      [⟨1, 9⟩, ⟨1, 5⟩, ⟨3, 8⟩, ⟨3, 9⟩]).map TeamLoad.isLoaded = [true, false, false] := by
  rw [(loadArenaTeams_merges _ _ _ (by decide) (by decide) (by decide)).2.2.2]
  decide

end DarkCore.Arenas
