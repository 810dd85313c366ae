/- GID: BlueTeam/Playbook/Policy
   generality: I
   source: packages/playbook-sdk/blueteam_playbook/policy.py
   digest: Tier policy of playbook actions. -/

import Mathlib.Data.List.Basic

set_option autoImplicit false
set_option relaxedAutoImplicit false

namespace BlueTeam.Playbook

inductive PolicyDecision
  | allow | deny | requireApproval
  deriving DecidableEq, Repr

/-- The `IntEnum` of action tiers. -/
inductive ActionTier
  | t0 | t1 | t2
  deriving DecidableEq, Repr

/-- `ActionTier(value)`; `none` is the `ValueError` Python raises off the enumeration. -/
def ActionTier.ofInt : Int → Option ActionTier
  | 0 => some .t0
  | 1 => some .t1
  | 2 => some .t2
  | _ => none

theorem ActionTier.ofInt_isSome_iff (n : Int) :
    (ActionTier.ofInt n).isSome ↔ 0 ≤ n ∧ n ≤ 2 := by
  constructor
  · intro h
    unfold ActionTier.ofInt at h
    split at h <;> simp_all
  · rintro ⟨lo, hi⟩
    have cases : n = 0 ∨ n = 1 ∨ n = 2 := by omega
    rcases cases with rfl | rfl | rfl <;> rfl

def tier2Actions : List String :=
  ["isolate_host", "isolate.host", "disable_user", "revoke_privileged_access",
    "modify_firewall", "push_production_detection", "alter_platform_policy", "delete_evidence"]

def tier1Actions : List String :=
  ["contain_session", "disable_stale_token", "quarantine_mailbox_rule"]

def evaluateAction (actionType : String) (tier : Option ActionTier) : PolicyDecision :=
  if actionType ∈ tier2Actions ∨ tier = some .t2 then .requireApproval
  else if actionType ∈ tier1Actions ∨ tier = some .t1 then .requireApproval
  else .allow

/-- The policy never answers `DENY`: the engine's denial branch is dead code. -/
theorem evaluateAction_ne_deny (actionType : String) (tier : Option ActionTier) :
    evaluateAction actionType tier ≠ .deny := by
  unfold evaluateAction
  split_ifs <;> simp

end BlueTeam.Playbook
