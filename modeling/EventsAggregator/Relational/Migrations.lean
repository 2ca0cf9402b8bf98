import EventsAggregator.Relational.Ddl
import EventsAggregator.Transition.Run
import Mathlib.Logic.Function.Basic

namespace Relational

open Transition

universe u

/-- A migration script: what it makes of a database at `downRevision`, and how it takes it back. -/
structure Migration (τ : Type u) where
  revision : String
  downRevision : Option String
  upgrade : List (Ddl τ)
  downgrade : List (Ddl τ)
  deriving DecidableEq

variable {τ : Type u}

def following (scripts : List (Migration τ)) (version : Option String) : Option (Migration τ) :=
  scripts.find? fun script => script.downRevision = version

/-- The upgrade to the head, in one transaction: script after script while one follows. -/
inductive Upgrades (scripts : List (Migration τ)) :
    Option String → Schema τ → Option String → Schema τ → Prop
  | head {version : Option String} {schema : Schema τ} (last : following scripts version = none) :
      Upgrades scripts version schema version schema
  | script {version version' : Option String} {schema middle schema' : Schema τ}
      {script : Migration τ} (next : following scripts version = some script)
      (ran : Ddl.runAll schema script.upgrade = some middle)
      (onward : Upgrades scripts (some script.revision) middle version' schema') :
      Upgrades scripts version schema version' schema'

inductive Level (scripts : List (Migration τ)) : Option String → Schema τ → Prop
  | base : Level scripts none .empty
  | next {version : Option String} {schema schema' : Schema τ} {script : Migration τ}
      (below : Level scripts version schema) (next : following scripts version = some script)
      (ran : Ddl.runAll schema script.upgrade = some schema') :
      Level scripts (some script.revision) schema'

variable {scripts : List (Migration τ)}

theorem Upgrades.level {version version' : Option String} {schema schema' : Schema τ}
    (upgrades : Upgrades scripts version schema version' schema')
    (level : Level scripts version schema) :
    Level scripts version' schema' ∧ following scripts version' = none := by
  induction upgrades with
  | head last => exact ⟨level, last⟩
  | script next ran _ ih => exact ih (level.next next ran)

theorem Level.upgrades {top version : Option String} {head schema : Schema τ}
    (climb : Upgrades scripts none .empty top head) (level : Level scripts version schema) :
    Upgrades scripts version schema top head := by
  induction level with
  | base => exact climb
  | next below next ran ih =>
    cases ih with
    | head last => cases last.symm.trans next
    | script next' ran' onward =>
      cases next.symm.trans next'
      cases ran.symm.trans ran'
      exact onward

theorem Level.at_head {top version : Option String} {head schema : Schema τ}
    (climb : Upgrades scripts none .empty top head) (level : Level scripts version schema)
    (last : following scripts version = none) : schema = head := by
  cases level.upgrades climb with
  | head => rfl
  | script next => cases last.symm.trans next

inductive Container
  | starting
  | migrating (version : Option String)
  | serving
  | exited

/-- The database of an application and the containers that come up over it. -/
structure Rollout (τ : Type u) where
  version : Option String
  schema : Schema τ
  containers : Nat → Container

inductive RolloutAction
  | read (container : Nat)
  | upgrade (container : Nat)
  | fail (container : Nat)
  | restart (container : Nat)

inductive RolloutStep (scripts : List (Migration τ)) :
    Rollout τ → RolloutAction → Rollout τ → Prop
  | read {s : Rollout τ} {i : Nat} (starting : s.containers i = .starting) :
      RolloutStep scripts s (.read i)
        { s with containers := Function.update s.containers i (.migrating s.version) }
  -- The version is written only where it still is the one that was read.
  | upgrade {s : Rollout τ} {i : Nat} {version : Option String} {schema : Schema τ}
      (migrating : s.containers i = .migrating s.version)
      (upgrades : Upgrades scripts s.version s.schema version schema) :
      RolloutStep scripts s (.upgrade i)
        { version, schema, containers := Function.update s.containers i .serving }
  -- Any error rolls the transaction back.
  | fail {s : Rollout τ} {i : Nat} {version : Option String}
      (migrating : s.containers i = .migrating version) :
      RolloutStep scripts s (.fail i)
        { s with containers := Function.update s.containers i .exited }
  | restart {s : Rollout τ} {i : Nat} :
      RolloutStep scripts s (.restart i)
        { s with containers := Function.update s.containers i .starting }

def rollouts (scripts : List (Migration τ)) : System (Rollout τ) RolloutAction where
  Initial s := Level scripts s.version s.schema ∧ ∀ i, s.containers i ≠ .serving
  Step := RolloutStep scripts

structure Rollout.Sound (scripts : List (Migration τ)) (s : Rollout τ) : Prop where
  level : Level scripts s.version s.schema
  served : ∀ i, s.containers i = .serving → following scripts s.version = none

theorem sound_step {s t : Rollout τ} {a : RolloutAction} (step : RolloutStep scripts s a t)
    (sound : s.Sound scripts) : t.Sound scripts := by
  have kept : ∀ {i : Nat} {container : Container}, container ≠ .serving →
      ∀ j, Function.update s.containers i container j = .serving →
        following scripts s.version = none := by
    intro i container other j serving
    rw [Function.update_apply] at serving
    split at serving
    · exact absurd serving other
    · exact sound.served j serving
  cases step with
  | read | fail | restart => exact ⟨sound.level, kept (fun same => nomatch same)⟩
  | upgrade migrating upgrades =>
    obtain ⟨level, last⟩ := upgrades.level sound.level
    exact ⟨level, fun _ _ => last⟩

theorem sound_run {s t : Rollout τ} {moves : List (Move (Rollout τ) RolloutAction)}
    (initial : (rollouts scripts).Initial s) (run : Run (rollouts scripts) s moves t) :
    t.Sound scripts :=
  run.invariant (fun _ _ _ sound step => sound_step step sound)
    ⟨initial.1, fun i serving => absurd serving (initial.2 i)⟩

end Relational
