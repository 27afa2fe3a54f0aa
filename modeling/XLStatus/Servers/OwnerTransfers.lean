import XLStatus.Auth.ChallengeDefs

/-! The transfer of a server to another owner, retried and cancelled by requests that run at the
same time. Each statement or transaction on the database is a step of its own. -/

namespace XLStatus.Servers.OwnerTransfers

open Shared Auth
open Transition (run run_append run_cons Meets meets_append run_induct_of_meets)

inductive Status where
  | completed
  | failed
  | cancelled
  deriving DecidableEq, Repr

structure Transfer where
  fromUserId : Option UserId
  toUserId : UserId
  requestedByUserId : Option UserId
  apiTokenId : Option String
  status : Status
  attempts : ℕ
  error : Option String
  completedAt : Option DateTime
  cancelledAt : Option DateTime
  lastAttemptAt : DateTime
  updatedAt : DateTime

structure Requester where
  userId : UserId
  patId : Option String

/-- The record, the owner in the row of its agent, if there is one, whether the target user
exists, and whether an attempt of the record has changed the owner. -/
structure Database where
  transfer : Transfer
  owner : Option UserId
  targetExists : Bool
  changedOwner : Bool

def errorMessage : AppError → String
  | .database _ => "database error"
  | .unauthorized message | .forbidden message | .badRequest message | .tooManyRequests message
  | .notFound message => message

def markServerOwnerTransferCompleted (auth : Requester) (fromOwner : UserId) (now : DateTime)
    (t : Transfer) : Transfer :=
  { t with
    fromUserId := some fromOwner, requestedByUserId := some auth.userId, apiTokenId := auth.patId,
    status := .completed, attempts := t.attempts + 1, error := none, completedAt := some now,
    cancelledAt := none, lastAttemptAt := now, updatedAt := now }

def markServerOwnerTransferFailed (error : String) (now : DateTime) (t : Transfer) : Transfer :=
  { t with
    status := .failed, attempts := t.attempts + 1, error := some error, lastAttemptAt := now,
    updatedAt := now }

def markServerOwnerTransferCancelled (now : DateTime) (t : Transfer) : Option Transfer :=
  if t.status = .completed then none
  else some { t with
    status := .cancelled, error := some "cancelled by user", cancelledAt := some now,
    updatedAt := now }

/-- The transaction: the agent, the groups it leaves and the record together, or nothing. -/
def persistOwnerTransfer (auth : Requester) (fromOwner toOwner : UserId) (now : DateTime)
    (db : Database) : Except AppError Database :=
  if db.owner = some fromOwner then
    .ok { db with
      owner := some toOwner, changedOwner := true,
      transfer :=
        { markServerOwnerTransferCompleted auth fromOwner now db.transfer with
          toUserId := toOwner } }
  else .error (.badRequest "agent owner changed before transfer could complete")

inductive Phase where
  | idle
  | findTarget (target : UserId)
  | findAgent (target : UserId)
  | markCompleted (owner : UserId)
  | persist (fromOwner toOwner : UserId)
  | markFailed (message : String)
  | markCancelled
  | done (result : Except AppError Unit)

def statement (auth : Requester) (now : DateTime) (fault : Option String) :
    Phase → Database → Phase × Database
  | .findTarget target, db => match fault with
    | some e => (.done (.error (.database e)), db)
    | none =>
      (if db.targetExists then .findAgent target else .markFailed "target user not found", db)
  | .findAgent target, db => match fault, db.owner with
    | some e, _ => (.done (.error (.database e)), db)
    | none, none => (.markFailed "agent not found", db)
    | none, some owner =>
      (if owner = target then .markCompleted owner else .persist owner target, db)
  | .markCompleted owner, db => match fault with
    | some e => (.markFailed (errorMessage (.database e)), db)
    | none => (.done (.ok ()),
        { db with transfer := markServerOwnerTransferCompleted auth owner now db.transfer })
  | .persist fromOwner toOwner, db => match fault with
    | some e => (.markFailed (errorMessage (.database e)), db)
    | none => match persistOwnerTransfer auth fromOwner toOwner now db with
      | .ok db => (.done (.ok ()), db)
      | .error e => (.markFailed (errorMessage e), db)
  | .markFailed message, db => match fault with
    | some e => (.done (.error (.database e)), db)
    | none => (.done (.ok ()),
        { db with transfer := markServerOwnerTransferFailed message now db.transfer })
  | .markCancelled, db => match fault with
    | some e => (.done (.error (.database e)), db)
    | none => match markServerOwnerTransferCancelled now db.transfer with
      | some transfer => (.done (.ok ()), { db with transfer })
      | none => (.done (.error (.notFound "server transfer not found")), db)
  | phase, db => (phase, db)

structure System where
  db : Database
  phase : ℕ → Phase
  auth : ℕ → Requester

/-- A request arrives and loads the record, a request sends its next statement, or the agent or
the target user changes otherwise. -/
inductive Event where
  | retry (r : ℕ) (auth : Requester)
  | cancel (r : ℕ) (auth : Requester)
  | next (r : ℕ) (now : DateTime) (fault : Option String)
  | agentOwner (owner : Option UserId)
  | targetUser (found : Bool)

def arrive (s : System) (r : ℕ) (auth : Requester) (verb : String) (phase : Phase) : System :=
  match s.phase r with
  | .idle =>
    let phase :=
      if s.db.transfer.status = .completed then
        .done (.error (.badRequest ("completed transfer cannot be " ++ verb)))
      else phase
    { s with phase := Function.update s.phase r phase, auth := Function.update s.auth r auth }
  | _ => s

def step (s : System) : Event → System
  | .retry r auth => arrive s r auth "retried" (.findTarget s.db.transfer.toUserId)
  | .cancel r auth => arrive s r auth "cancelled" .markCancelled
  | .next r now fault =>
    let (phase, db) := statement (s.auth r) now fault (s.phase r) s.db
    { s with phase := Function.update s.phase r phase, db }
  | .agentOwner owner => { s with db := { s.db with owner } }
  | .targetUser found => { s with db := { s.db with targetExists := found } }

abbrev Completed (s : System) : Prop := s.db.transfer.status = .completed

def FailsUncompleted (s : System) : Event → Prop
  | .next r _ none => ∀ message, s.phase r = .markFailed message → ¬ Completed s
  | _ => True

theorem db_arrive (s : System) (r : ℕ) (auth : Requester) (verb : String) (phase : Phase) :
    (arrive s r auth verb phase).db = s.db := by
  unfold arrive
  split <;> rfl

theorem statement_cases (auth : Requester) (now : DateTime) (fault : Option String) (phase : Phase)
    (db : Database) :
    let next := (statement auth now fault phase db).2
    (next.transfer.status = db.transfer.status ∧ next.changedOwner = db.changedOwner) ∨
      next.transfer.status = .completed ∨
      (next.changedOwner = db.changedOwner ∧ db.transfer.status ≠ .completed) ∨
      ((∃ message, phase = .markFailed message) ∧ fault = none ∧
        next.transfer.status = .failed ∧ next.changedOwner = db.changedOwner) := by
  cases phase with
  | findTarget => cases fault <;> exact .inl ⟨rfl, rfl⟩
  | findAgent =>
    refine .inl ?_
    cases fault with
    | some => exact ⟨rfl, rfl⟩
    | none => cases howner : db.owner <;> simp only [statement, howner, and_self]
  | markCompleted =>
    cases fault with
    | some => exact .inl ⟨rfl, rfl⟩
    | none => exact .inr (.inl rfl)
  | persist =>
    cases fault with
    | some => exact .inl ⟨rfl, rfl⟩
    | none =>
      unfold statement persistOwnerTransfer
      dsimp only
      split_ifs
      · exact .inr (.inl rfl)
      · exact .inl ⟨rfl, rfl⟩
  | markFailed message =>
    cases fault with
    | some => exact .inl ⟨rfl, rfl⟩
    | none => exact .inr (.inr (.inr ⟨⟨message, rfl⟩, rfl, rfl, rfl⟩))
  | markCancelled =>
    cases fault with
    | some => exact .inl ⟨rfl, rfl⟩
    | none =>
      unfold statement markServerOwnerTransferCancelled
      dsimp only
      split_ifs with h
      · exact .inl ⟨rfl, rfl⟩
      · exact .inr (.inr (.inl ⟨rfl, h⟩))
  | idle => exact .inl ⟨rfl, rfl⟩
  | done => exact .inl ⟨rfl, rfl⟩

variable {s : System} {e : Event}

theorem completed_step (hguard : FailsUncompleted s e) (h : Completed s) :
    Completed (step s e) := by
  cases e with
  | retry r auth => exact (congrArg (·.transfer.status) (db_arrive s r auth _ _)).trans h
  | cancel r auth => exact (congrArg (·.transfer.status) (db_arrive s r auth _ _)).trans h
  | next r now fault =>
    rcases statement_cases (s.auth r) now fault (s.phase r) s.db with
      hsame | hcompleted | hother | ⟨⟨message, hphase⟩, rfl, -, -⟩
    · exact hsame.1.trans h
    · exact hcompleted
    · exact absurd h hother.2
    · exact absurd h (hguard message hphase)
  | agentOwner => exact h
  | targetUser => exact h

theorem not_completed_step (hguard : ¬ FailsUncompleted s e) :
    Completed s ∧ ¬ Completed (step s e) := by
  cases e with
  | next r now fault =>
    cases fault with
    | some => exact absurd trivial hguard
    | none =>
      unfold FailsUncompleted at hguard
      push Not at hguard
      obtain ⟨message, hphase, h⟩ := hguard
      have hdb : (step s (.next r now none)).db =
          (statement (s.auth r) now none (s.phase r) s.db).2 := rfl
      rw [hphase] at hdb
      refine ⟨h, ?_⟩
      unfold Completed
      rw [hdb]
      exact nofun
  | _ => exact absurd trivial hguard

theorem completed_of_changedOwner_step (hguard : FailsUncompleted s e)
    (h : s.db.changedOwner = true → Completed s) :
    (step s e).db.changedOwner = true → Completed (step s e) := by
  by_cases hcompleted : Completed s
  · exact fun _ => completed_step hguard hcompleted
  · -- only the transaction, which completes the record, is left to change the owner
    have hsame : (step s e).db.changedOwner = s.db.changedOwner →
        (step s e).db.changedOwner = true → Completed (step s e) :=
      fun heq hchanged => absurd (h (heq.symm.trans hchanged)) hcompleted
    cases e with
    | retry r auth => exact hsame (congrArg (·.changedOwner) (db_arrive s r auth _ _))
    | cancel r auth => exact hsame (congrArg (·.changedOwner) (db_arrive s r auth _ _))
    | next r now fault =>
      rcases statement_cases (s.auth r) now fault (s.phase r) s.db with
        heq | hnow | heq | ⟨-, -, -, heq⟩
      · exact hsame heq.2
      · exact fun _ => hnow
      · exact hsame heq.1
      · exact hsame heq
    | agentOwner => exact hsame rfl
    | targetUser => exact hsame rfl

/-- In a run a completed record stays completed, and is completed once an attempt of it has
changed the owner. -/
def Truthful (s : System) (events : List Event) : Prop :=
  ∀ as bs cs, events = as ++ bs ++ cs →
    (Completed (run step s as) → Completed (run step s (as ++ bs))) ∧
    ((run step s as).db.changedOwner = true → Completed (run step s as))

theorem truthful_iff {s : System} (hs : s.db.changedOwner = false) (events : List Event) :
    Truthful s events ↔ Meets step FailsUncompleted s events := by
  constructor
  · intro h
    have hkeeps : ∀ as bs cs, events = as ++ bs ++ cs →
        Completed (run step s as) → Completed (run step s (as ++ bs)) :=
      fun as bs cs heq => (h as bs cs heq).1
    clear h hs
    induction events generalizing s with
    | nil => trivial
    | cons e events ih =>
      constructor
      · by_contra hguard
        obtain ⟨hbefore, hafter⟩ := not_completed_step hguard
        exact hafter (hkeeps [] [e] events rfl hbefore)
      · refine ih fun as bs cs heq => ?_
        exact hkeeps (e :: as) bs cs (by rw [heq]; rfl)
  · rintro hmeets as bs cs rfl
    rw [List.append_assoc, meets_append, meets_append] at hmeets
    obtain ⟨has, hbs, -⟩ := hmeets
    constructor
    · intro h
      rw [run_append]
      exact run_induct_of_meets (fun _ _ => completed_step) h hbs
    · exact run_induct_of_meets (P := fun s => s.db.changedOwner = true → Completed s)
        (fun _ _ => completed_of_changedOwner_step) (fun h => absurd h (by rw [hs]; decide)) has

namespace Sample

def oldOwner : UserId := ⟨"00000000-0000-4000-8000-000000000001", canonical_one⟩
def newOwner : UserId := ⟨"00000000-0000-4000-8000-000000000002", canonical_two⟩
def admin : Requester := ⟨oldOwner, none⟩

def init : System where
  db :=
    { transfer := ⟨some oldOwner, newOwner, some oldOwner, none, .failed, 1,
        some "database error", none, none, 0, 0⟩
      owner := some oldOwner, targetExists := true, changedOwner := false }
  phase _ := .idle
  auth _ := admin

def events : List Event :=
  [.retry 0 admin, .retry 1 admin, .next 0 1 none, .next 1 1 none, .next 0 2 none, .next 1 2 none,
    .next 0 3 none, .next 1 4 none]

end Sample

open Sample in
theorem truthful_until_failure_marked : Truthful init events :=
  (truthful_iff rfl events).mpr (by
    refine ⟨trivial, trivial, ?_⟩
    repeat' first | exact trivial | constructor | (intro message hphase; cases hphase))

open Sample in
theorem completed_record_failed :
    (run step init events).db.transfer.status = .completed ∧
      (run step init (events ++ [.next 1 5 none])).db.transfer.status = .failed ∧
      (run step init (events ++ [.next 1 5 none])).db.owner = some newOwner ∧
      (run step init (events ++ [.next 1 5 none])).db.changedOwner = true := by
  decide +kernel

end XLStatus.Servers.OwnerTransfers
