import Mathlib.Tactic

/-! Statements sent one after another by a task that can be dropped at each of them. Once it is
dropped nothing further is sent; a statement that was under way may still be executed. -/

namespace XLStatus.Statements

variable {S D : Type*}

/-- What becomes of a statement: it is carried out, it fails (and may roll the transaction
back), or the task is dropped while it waits. -/
inductive Answer where
  | ok
  | error (rollsBack : Bool)
  | dropped (executed : Bool)
  deriving DecidableEq, Repr

namespace Answer

def executed : Answer → Bool
  | .ok => true
  | .error _ => false
  | .dropped executed => executed

def rollsBack : Answer → Bool
  | .error rollsBack => rollsBack
  | _ => false

def isDropped : Answer → Bool
  | .dropped _ => true
  | _ => false

theorem rollsBack_of_executed {a : Answer} (h : a.executed = true) : a.rollsBack = false := by
  cases a with
  | ok => rfl
  | error => cases h
  | dropped => rfl

end Answer

structure Server (S D : Type*) where
  perform : S → D → Option D
  rollback : D → D

structure Session (S D : Type*) where
  store : D
  answers : List Answer
  trace : List (S × Answer)
  dropped : Bool

def Server.after (server : Server S D) (s : S) (a : Answer) (d : D) : D :=
  if a.executed then (server.perform s d).getD d
  else if a.rollsBack then server.rollback d
  else d

def Server.execute (server : Server S D) (s : S) (σ : Session S D) : Bool × Session S D :=
  if σ.dropped then (false, σ)
  else
    let a := σ.answers.headD (.dropped false)
    (a = .ok ∧ (server.perform s σ.store).isSome,
      { store := server.after s a σ.store
        answers := σ.answers.tail
        trace := σ.trace ++ [(s, a)]
        dropped := a.isDropped })

def Server.executeAll (server : Server S D) : List S → Session S D → Bool × Session S D
  | [], σ => (true, σ)
  | s :: rest, σ => match server.execute s σ with
    | (true, σ) => server.executeAll rest σ
    | (false, σ) => (false, σ)

variable {σ : Session S D} {ss : List S} {t u : List (S × Answer)} {a : Answer} {s : S}

theorem execute_of_dropped (server : Server S D) (h : σ.dropped = true) (s : S) :
    server.execute s σ = (false, σ) := by
  simp [Server.execute, h]

theorem execute_of_not_dropped (server : Server S D) (h : σ.dropped = false) (s : S) :
    ∃ a rest, server.execute s σ =
      (decide (a = .ok ∧ (server.perform s σ.store).isSome),
        ⟨server.after s a σ.store, rest, σ.trace ++ [(s, a)], a.isDropped⟩) := by
  exact ⟨σ.answers.headD (.dropped false), σ.answers.tail, by simp [Server.execute, h]⟩

theorem execute_effect (server : Server S D) (h : σ.dropped = false) (s : S) :
    ∃ a : Answer, (server.execute s σ).2.trace = σ.trace ++ [(s, a)] ∧
      ((a.executed = true ∧ a.rollsBack = false ∧
          (server.execute s σ).2.store = (server.perform s σ.store).getD σ.store) ∨
        (a.executed = false ∧ a.rollsBack = true ∧
          (server.execute s σ).2.store = server.rollback σ.store) ∨
        (a.executed = false ∧ a.rollsBack = false ∧ (server.execute s σ).2.store = σ.store)) := by
  obtain ⟨a, rest, hexecute⟩ := execute_of_not_dropped server h s
  refine ⟨a, by rw [hexecute], ?_⟩
  rw [hexecute]
  cases hexecuted : a.executed with
  | true => exact .inl ⟨rfl, Answer.rollsBack_of_executed hexecuted, by simp [Server.after, hexecuted]⟩
  | false =>
    cases hrolled : a.rollsBack with
    | true => exact .inr (.inl ⟨rfl, rfl, by simp [Server.after, hexecuted, hrolled]⟩)
    | false => exact .inr (.inr ⟨rfl, rfl, by simp [Server.after, hexecuted, hrolled]⟩)

theorem executeAll_induct {server : Server S D} {Before : List S → Session S D → Prop}
    {Stopped : Session S D → Prop} (hstep : ∀ s rest σ, Before (s :: rest) σ → if (server.execute s
      σ).1 then Before rest (server.execute s σ).2 else Stopped (server.execute s σ).2)
    (h : Before ss σ) :
    if (server.executeAll ss σ).1 then Before [] (server.executeAll ss σ).2
    else Stopped (server.executeAll ss σ).2 := by
  induction ss generalizing σ with
  | nil => exact h
  | cons s rest ih =>
    have hs := hstep s rest σ h
    unfold Server.executeAll
    cases hr : server.execute s σ with
    | mk ok =>
      rw [hr] at hs
      cases ok with
      | true => exact ih hs
      | false => exact hs

def Executed (s : S) (trace : List (S × Answer)) : Prop :=
  ∃ a : Answer, (s, a) ∈ trace ∧ a.executed = true

def RolledBack (trace : List (S × Answer)) : Prop :=
  ∃ s a, (s, a) ∈ trace ∧ a.rollsBack = true

@[simp] theorem executed_append :
    Executed s (t ++ u) ↔ Executed s t ∨ Executed s u := by
  simp only [Executed, List.mem_append, or_and_right, exists_or]

@[simp] theorem executed_singleton {s' : S} :
    Executed s [(s', a)] ↔ s = s' ∧ a.executed = true := by
  simp only [Executed, List.mem_singleton, Prod.mk.injEq, and_assoc]
  constructor
  · rintro ⟨_, rfl, rfl, h⟩
    exact ⟨rfl, h⟩
  · rintro ⟨rfl, h⟩
    exact ⟨a, rfl, rfl, h⟩

@[simp] theorem executed_map_ok :
    Executed s (ss.map (·, Answer.ok)) ↔ s ∈ ss := by
  simp [Executed, Answer.executed]

@[simp] theorem rolledBack_append :
    RolledBack (t ++ u) ↔ RolledBack t ∨ RolledBack u := by
  simp only [RolledBack, List.mem_append, or_and_right, exists_or]

@[simp] theorem rolledBack_singleton :
    RolledBack [(s, a)] ↔ a.rollsBack = true := by
  simp [RolledBack]

@[simp] theorem rolledBack_map_ok : ¬ RolledBack (ss.map (·, Answer.ok)) := by
  simp [RolledBack, Answer.rollsBack]

end XLStatus.Statements
