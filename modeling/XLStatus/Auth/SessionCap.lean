import XLStatus.Auth.LoginDefs

/-! The cap on a user's sessions, with the statements of concurrent `SessionRepository::create`
calls one by one. On SQLite a transaction that has written keeps the others from writing; on
PostgreSQL a statement sees what was committed before it. -/

namespace XLStatus.Auth.SessionCap

open Shared Transition List Option Function
open Middleware (validateTokenHash)
open Login (SessionRow User newestFirst maxActiveSessionsPerUser sanitizeOptionalMetadata)

structure Input where
  verified : User
  ip : Option String
  userAgent : Option String
  expiresAt : DateTime
  tokenHash : String
  id : String
  now : DateTime

def Input.row (db : DatabaseBackend) (input : Input) : SessionRow where
  verified := input.verified
  session :=
    { id := input.id
      userId := input.verified.row.id
      tokenHash := input.tokenHash
      ip := sanitizeOptionalMetadata input.ip Login.maxSessionIpBytes
      userAgent := sanitizeOptionalMetadata input.userAgent Login.maxSessionUserAgentBytes
      expiresAt := db.stored input.expiresAt
      createdAt := db.stored input.now }

inductive Phase where
  | deleteExpired
  | deleteOldest
  | insert
  | commit
  deriving DecidableEq

structure Tx where
  input : Input
  phase : Phase
  deleted : List String

def Tx.seen (tx : Tx) (rows : List SessionRow) : List SessionRow :=
  rows.filter fun row => row.session.id ∉ tx.deleted

def Tx.newest (db : DatabaseBackend) (tx : Tx) (rows : List SessionRow) : List String :=
  let live := (tx.seen rows).filter fun row =>
    row.session.userId = tx.input.verified.row.id ∧ db.stored tx.input.now < row.session.expiresAt
  ((newestFirst db live).take (maxActiveSessionsPerUser - 1)).map (·.session.id)

def Tx.delete (tx : Tx) (next : Phase) (rows : List SessionRow) (p : SessionRow → Bool) : Tx :=
  { tx with
    phase := next
    deleted := tx.deleted ++ ((tx.seen rows).filter p).map (·.session.id) }

def Tx.statement (db : DatabaseBackend) (tx : Tx) (rows : List SessionRow) : Option Tx :=
  match tx.phase with
  | .deleteExpired => some (tx.delete .deleteOldest rows fun row =>
      row.session.expiresAt ≤ db.stored tx.input.now)
  | .deleteOldest => some (tx.delete .insert rows fun row =>
      row.session.userId = tx.input.verified.row.id ∧ row.session.id ∉ tx.newest db rows)
  | .insert =>
    if (tx.seen rows).all fun row => row.session.id ≠ tx.input.id ∧
        row.session.tokenHash ≠ tx.input.tokenHash then some { tx with phase := .commit }
    else none
  | .commit => some tx

structure State where
  rows : List SessionRow
  txs : ℕ → Option Tx
  writer : Option ℕ

def State.start (rows : List SessionRow) : State := ⟨rows, fun _ => none, none⟩

def State.leave (s : State) (i : ℕ) : State :=
  { s with
    txs := Function.update s.txs i none
    writer := if s.writer = some i then none else s.writer }

inductive Event where
  | create (i : ℕ) (input : Input)
  | statement (i : ℕ) (ok : Bool)
  | commit (i : ℕ) (now : DateTime)
  | drop (i : ℕ)

def State.step (db : DatabaseBackend) (s : State) : Event → State
  | .create i input =>
    if s.txs i = none ∧ validateTokenHash input.tokenHash ∧ input.now < input.expiresAt then
      { s with txs := Function.update s.txs i (some ⟨input, .deleteExpired, []⟩) }
    else s
  | .statement i ok => match s.txs i with
    | none => s
    | some tx =>
      -- On SQLite the statement waits for the transaction that has written.
      if db = .sqlite ∧ s.writer.any (· ≠ i) then s
      else match if ok then tx.statement db s.rows else none with
        | some tx => { s with txs := Function.update s.txs i (some tx), writer := some i }
        | none => s.leave i
  | .commit i _ => match s.txs i with
    | some tx =>
      if tx.phase = .commit then { s.leave i with rows := tx.seen s.rows ++ [tx.input.row db] }
      else s
    | none => s
  | .drop i => s.leave i

def unexpired (now : DateTime) (user : UserId) (rows : List SessionRow) : List SessionRow :=
  rows.filter fun row => row.session.userId = user ∧ now < row.session.expiresAt

/-- A commit leaves the user within the cap, with the session it created. -/
def CapAfter (db : DatabaseBackend) (s : State) : Event → Prop
  | .commit i now => ∀ tx, s.txs i = some tx → tx.phase = .commit →
    let sessions := unexpired now tx.input.verified.row.id (s.step db (.commit i now)).rows
    sessions.length ≤ maxActiveSessionsPerUser ∧ tx.input.row db ∈ sessions
  | _ => True

/-- Before a commit the session has not expired, and on PostgreSQL the user's sessions that the
transaction does not delete, with those committed since it deleted, are fewer than the cap. -/
def RoomBefore (db : DatabaseBackend) (s : State) : Event → Prop
  | .commit i now => ∀ tx, s.txs i = some tx → tx.phase = .commit →
    now < db.stored tx.input.expiresAt ∧ (db = .sqlite ∨
      (unexpired now tx.input.verified.row.id (tx.seen s.rows)).length < maxActiveSessionsPerUser)
  | _ => True

structure Tx.Alone (tx : Tx) (i : ℕ) (s : State) : Prop where
  writer : tx.phase ≠ .deleteExpired → s.writer = some i
  kept : tx.phase = .insert ∨ tx.phase = .commit →
    ((tx.seen s.rows).filter (·.session.userId = tx.input.verified.row.id)).length <
      maxActiveSessionsPerUser
  fresh : tx.phase = .commit → ∀ row ∈ tx.seen s.rows, row.session.id ≠ tx.input.id

structure Serialised (s : State) : Prop where
  nodup : (s.rows.map (·.session.id)).Nodup
  alone : ∀ i tx, s.txs i = some tx → tx.Alone i s

theorem seen_delete (tx : Tx) (next : Phase) (rows : List SessionRow) (p : SessionRow → Bool)
    {row : SessionRow} (h : row ∈ (tx.delete next rows p).seen rows) :
    row ∈ tx.seen rows ∧ p row = false := by
  obtain ⟨hrow, hnot⟩ := mem_filter.mp h
  obtain ⟨hold, hnew⟩ := not_or.mp (mt mem_append.mpr (of_decide_eq_true hnot))
  have hseen : row ∈ tx.seen rows := mem_filter.mpr ⟨hrow, decide_eq_true hold⟩
  exact ⟨hseen, eq_false_of_ne_true fun hp =>
    hnew (List.mem_map_of_mem (mem_filter.mpr ⟨hseen, hp⟩))⟩

theorem length_kept {db : DatabaseBackend} {rows : List SessionRow}
    (hrows : (rows.map (·.session.id)).Nodup) (tx : Tx) :
    (((tx.delete .insert rows fun row => row.session.userId = tx.input.verified.row.id ∧
      row.session.id ∉ tx.newest db rows).seen rows).filter
        (·.session.userId = tx.input.verified.row.id)).length < maxActiveSessionsPerUser := by
  set kept := ((tx.delete .insert rows fun row => row.session.userId = tx.input.verified.row.id ∧
    row.session.id ∉ tx.newest db rows).seen rows).filter
      (·.session.userId = tx.input.verified.row.id)
  have hsub : kept.map (·.session.id) ⊆ tx.newest db rows := by
    intro id hid
    obtain ⟨row, hrow, rfl⟩ := List.mem_map.mp hid
    obtain ⟨hseen, huser⟩ := mem_filter.mp hrow
    have hnot := (seen_delete tx _ rows _ hseen).2
    simpa [decide_eq_true_eq.mp huser] using hnot
  have hnodup : (kept.map (·.session.id)).Nodup :=
    hrows.sublist ((filter_sublist.trans filter_sublist).map _)
  calc kept.length = (kept.map (·.session.id)).length := (length_map _).symm
    _ ≤ (tx.newest db rows).length := (hnodup.subperm hsub).length_le
    _ < maxActiveSessionsPerUser := by
      rw [Tx.newest, length_map, length_take]
      exact lt_of_le_of_lt (min_le_left _ _) (by decide)

variable {tx : Tx} {s : State} {i : ℕ}

theorem alone_of_deleteExpired (h : tx.phase = .deleteExpired) (i : ℕ) (s : State) :
    tx.Alone i s :=
  ⟨fun hphase => absurd h hphase, by simp [h], by simp [h]⟩

theorem serialised_leave (h : Serialised s) (i : ℕ) : Serialised (s.leave i) := by
  refine ⟨h.nodup, fun j tx hj => ?_⟩
  by_cases hij : j = i
  · simp [State.leave, hij] at hj
  · obtain ⟨hwriter, hkept, hfresh⟩ := h.alone j tx (by simpa [State.leave, hij] using hj)
    refine ⟨fun hphase => ?_, hkept, hfresh⟩
    rw [State.leave, hwriter hphase, if_neg (by simpa using hij)]

theorem serialised_of_waiting {s' : State} (hnodup : (s'.rows.map (·.session.id)).Nodup)
    (hothers : ∀ j tx, j ≠ i → s'.txs j = some tx → tx.phase = .deleteExpired)
    (hown : ∀ tx, s'.txs i = some tx → tx.Alone i s') : Serialised s' := by
  refine ⟨hnodup, fun j tx hj => ?_⟩
  by_cases hij : j = i
  · subst hij
    exact hown tx hj
  · exact alone_of_deleteExpired (hothers j tx hij hj) j s'

theorem alone_statement (h : Serialised s) {tx' : Tx} {txs : ℕ → Option Tx}
    (htx : s.txs i = some tx) (hnext : tx.statement .sqlite s.rows = some tx') :
    tx'.Alone i { s with txs, writer := some i } := by
  have hold := h.alone i tx htx
  unfold Tx.statement at hnext
  refine ⟨fun _ => rfl, fun hphase => ?_, fun hphase => ?_⟩
  all_goals
    split at hnext
    any_goals split_ifs at hnext with hall
    all_goals cases hnext
  · simp [Tx.delete] at hphase
  · exact length_kept h.nodup tx
  · rename_i hinsert
    exact hold.kept (.inl hinsert)
  · exact hold.kept hphase
  · simp [Tx.delete] at hphase
  · simp [Tx.delete] at hphase
  · intro row hrow
    exact (of_decide_eq_true (List.all_eq_true.mp hall row hrow)).1
  · exact hold.fresh hphase

theorem serialised_step (h : Serialised s) (e : Event) :
    Serialised (s.step .sqlite e) := by
  cases e with
  | create i =>
    simp only [State.step]
    split_ifs with hnew
    · refine ⟨h.nodup, fun j tx hj => ?_⟩
      by_cases hij : j = i
      · subst hij
        simp only [update_self, some.injEq] at hj
        subst hj
        exact alone_of_deleteExpired rfl j _
      · obtain ⟨hwriter, hkept, hfresh⟩ := h.alone j tx
          ((update_of_ne hij ..).symm.trans hj)
        exact ⟨hwriter, hkept, hfresh⟩
    · exact h
  | statement i =>
    simp only [State.step]
    cases htx : s.txs i with
    | none => exact h
    | some tx =>
      dsimp only
      split_ifs with hwait hok
      · exact h
      · cases hnext : tx.statement .sqlite s.rows with
        | none => exact serialised_leave h i
        | some =>
          refine serialised_of_waiting (i := i) h.nodup (fun j tx'' hij hj => ?_) fun tx'' hj => ?_
          · by_contra hphase
            have hj := (update_of_ne hij ..).symm.trans hj
            exact hwait ⟨trivial, by simpa [(h.alone j tx'' hj).writer hphase] using hij⟩
          · simp only [update_self, some.injEq] at hj
            subst hj
            exact alone_statement h htx hnext
      · exact serialised_leave h i
  | commit i =>
    simp only [State.step]
    cases htx : s.txs i with
    | none => exact h
    | some tx =>
      dsimp only
      split_ifs with hphase
      · have halone := h.alone i tx htx
        refine serialised_of_waiting (i := i) ?_ (fun j tx' hij hj => ?_) fun tx' hj => ?_
        · rw [map_append, map_singleton]
          refine nodup_append'.mpr ⟨h.nodup.sublist (filter_sublist.map _),
            nodup_singleton _, disjoint_singleton.mpr fun hmem => ?_⟩
          obtain ⟨row, hrow, hid⟩ := List.mem_map.mp hmem
          exact halone.fresh hphase row hrow hid
        · by_contra hwritten
          have hj : s.txs j = some tx' := (update_of_ne hij ..).symm.trans hj
          have hwriter := (h.alone j tx' hj).writer hwritten
          rw [halone.writer (by simp [hphase])] at hwriter
          exact hij (some.inj hwriter).symm
        · simp [State.leave] at hj
      · exact h
  | drop i => exact serialised_leave h i

namespace Sample

def user : User :=
  ⟨⟨⟨"0190a6f4-2b1c-7c3d-8e4f-00000000000b", canonical_v7b⟩, .member, 0⟩, "bob", "$argon2id$salt$hash"⟩

def input (n : ℕ) : Input where
  verified := user
  ip := none
  userAgent := none
  expiresAt := 86400000000000
  tokenHash := String.singleton (Char.ofNat (48 + n))
  id := String.singleton (Char.ofNat (48 + n))
  now := 1000 * n

def alone (i n : ℕ) : List Event :=
  [.create i (input n), .statement i true, .statement i true, .statement i true]

end Sample

end XLStatus.Auth.SessionCap
