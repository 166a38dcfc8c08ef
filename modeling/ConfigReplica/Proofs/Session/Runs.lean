import ConfigReplica.Proofs.Session.Operations
import ConfigReplica.Proofs.Session.Within

/-!
# Runs

A run is a series of operations, with time that passes between them and sessions that
are opened again over the same store (`Device.Runs`). How an operation ends makes no
difference to what may follow. Which operations a run has, to which times it waits and
where it opens sessions is held to `Terms`; without terms, runs that begin with a new
session lead to all devices there are (`Device.Reached`).

What every effect keeps, a run keeps (`Device.Runs.keeps`). A flush hands pushes to a
network that may act on the session in turn; if what the network does are runs, the
flush is a run as well (`OnlineM.goes_flush`), and so is what the background loop does
(`OnlineM.goes_pass`).
-/

namespace ConfigReplica

/-- What a run is held to. -/
structure Terms where
  /-- What may be done at a time. -/
  deed : Int64 → Deed → Prop := fun _ _ => True
  /-- Where time may pass to. -/
  wait : Device → Prop := fun _ => True
  /-- Where a session may be opened again. -/
  reopen : Device → Prop := fun _ => True

namespace Device

/-- The device at another time. -/
def atTime (d : Device) (clock : Int64) : Device :=
  { d with clock }

/-- The device with a new session. -/
def opened (d : Device) (ring : Seal.Keyring) (settings : Settings) : Device :=
  { d with session := { ring, settings } }

/-- **Runs** of sessions on a device. -/
inductive Runs (terms : Terms) : Device → Device → Prop
  | refl (d : Device) : Runs terms d d
  | act {d d' : Device} {deed : Deed} {α : Type} {action : SessionM α} (past : Runs terms d d')
      (operation : Operation deed action) (allowed : terms.deed d'.clock deed) :
      Runs terms d (stateAfter action d')
  | wait {d d' : Device} (past : Runs terms d d') (clock : Int64)
      (allowed : terms.wait (d'.atTime clock)) : Runs terms d (d'.atTime clock)
  | reopen {d d' : Device} (past : Runs terms d d') (ring : Seal.Keyring) (settings : Settings)
      (allowed : terms.reopen (d'.opened ring settings)) :
      Runs terms d (d'.opened ring settings)

/-- A device that sessions may come to, over any store. -/
def Reached (d : Device) : Prop :=
  ∃ d₀ ring settings, Runs {} (opened d₀ ring settings) d

variable {terms : Terms} {d d' d'' : Device}

/-- A session that is opened has nothing in use, so nothing can be out of place. -/
theorem tidy_opened (d : Device) (ring : Seal.Keyring) (settings : Settings) :
    (d.opened ring settings).Tidy := by
  intro scope variant handle placed
  simp [Placed, Session.slot, opened] at placed

/-- A new session at a time, with nothing in its store and all random draws zero. -/
def fresh (clock : Int64) : Device :=
  opened { session := { ring }, store := {}, entropy := .constant 0, clock }
    ring {}
where
  /-- The keys of an account. -/
  ring : Seal.Keyring :=
    { user := ⟨Identity.accountTag, Vector.replicate 32 0x11⟩, secret := Vector.replicate 32 0x22 }

/-- A group. -/
def someGroup : GroupId :=
  ⟨Identity.groupTag, Vector.replicate 32 0x33⟩

/-- New sessions can be come to. -/
theorem reached_fresh (clock : Int64) : (fresh clock).Reached :=
  ⟨_, _, _, .refl _⟩

theorem Runs.trans (first : Runs terms d d') (second : Runs terms d' d'') :
    Runs terms d d'' := by
  -- by induction over the second run, which goes on where the first one ended
  induction second with
  | refl => exact first
  | act past operation allowed ih => exact ih.act operation allowed
  | wait past clock allowed ih => exact ih.wait clock allowed
  | reopen past ring settings allowed ih => exact ih.reopen ring settings allowed

/-- **What every effect keeps, a run keeps.** -/
theorem Runs.keeps {P : Device → Prop} (run : Runs terms d d') (tidy : d.Tidy)
    (effects : ∀ {d d' deed}, terms.deed d.clock deed → d.Tidy → Effect deed d d' → P d → P d')
    (waits : ∀ {d clock}, terms.wait (d.atTime clock) → P d → P (d.atTime clock))
    (opens : ∀ {d ring settings}, terms.reopen (d.opened ring settings) → P d →
      P (d.opened ring settings))
    (start : P d) : d'.Tidy ∧ P d' := by
  -- by induction over the run, with the tidiness of the device at hand for every effect
  induction run with
  | refl => exact ⟨tidy, start⟩
  | @act d₁ deed α action past operation allowed ih =>
    -- the effects of one operation have the same clock, so the terms hold for all of them
    have chain := operation.chain ih.1
    have all : ∀ {d₂}, Chain deed d₁ d₂ → d₂.clock = d₁.clock ∧ d₂.Tidy ∧ P d₂ := by
      intro d₂ chain
      induction chain with
      | refl => exact ⟨rfl, ih⟩
      | tail past effect ih' =>
        obtain ⟨clock, tidy, holds⟩ := ih'
        refine ⟨effect.steady.1.trans clock, effect.tidy tidy, ?_⟩
        exact effects (clock ▸ allowed) tidy effect holds
    exact (all chain).2
  | wait past clock allowed ih => exact ⟨ih.1, waits allowed ih.2⟩
  -- opening forgets what was in use, so tidiness is there anew
  | reopen past ring settings allowed ih => exact ⟨tidy_opened _ _ _, opens allowed ih.2⟩

/-- A run keeps devices tidy. -/
theorem Runs.tidy (run : Runs terms d d') (tidy : d.Tidy) : d'.Tidy :=
  (run.keeps (P := fun _ => True) tidy (fun _ _ _ _ => trivial) (fun _ _ => trivial)
    (fun _ _ => trivial) trivial).1

/-- Devices that sessions come to are tidy. -/
theorem Reached.tidy (reached : d.Reached) : d.Tidy := by
  obtain ⟨d₀, ring, settings, run⟩ := reached
  exact run.tidy (tidy_opened _ _ _)

/-- What follows on them can be come to as well. -/
theorem Reached.trans (reached : d.Reached) (run : Runs {} d d') : d'.Reached := by
  obtain ⟨d₀, ring, settings, past⟩ := reached
  exact ⟨d₀, ring, settings, past.trans run⟩

/-- Terms that ask less allow more. -/
theorem Runs.relax {looser : Terms} (run : Runs terms d d')
    (deed : ∀ {time deed}, terms.deed time deed → looser.deed time deed)
    (wait : ∀ {d}, terms.wait d → looser.wait d)
    (reopen : ∀ {d}, terms.reopen d → looser.reopen d) : Runs looser d d' := by
  induction run with
  | refl => exact .refl _
  | act past operation allowed ih => exact ih.act operation (deed allowed)
  | wait past clock allowed ih => exact ih.wait clock (wait allowed)
  | reopen past ring settings allowed ih => exact ih.reopen ring settings (reopen allowed)

end Device

/-! ### Flushes -/

namespace OnlineM

open Device

variable {σ α β : Type} {terms : Terms}

/-- What an action does to the session is a run. -/
def Goes (terms : Terms) (action : OnlineM σ α) : Prop :=
  ∀ online, Runs terms online.device (stateAfter action online).device

/-- Steps that are runs make a run. -/
theorem Goes.of_within {action : OnlineM σ α} (within : Within (Leads (Runs terms)) action) :
    Goes terms action := by
  intro online
  have steps := within online
  generalize stateAfter action online = online' at steps
  induction steps with
  | refl => exact .refl _
  | tail past step ih => exact ih.trans step

section Flush

variable {carrier : Carrier σ} (carries : ∀ destination push, Goes terms (carrier destination push))
  (stores : ∀ time, terms.deed time .store) (works : ∀ time, terms.deed time .work)
  (confirms : ∀ time scope, terms.deed time (.confirm scope))

/-- An operation that the terms allow is a step of a run. -/
theorem within_operation {deed : Deed} {action : SessionM α} (operation : Operation deed action)
    (allowed : ∀ time, terms.deed time deed) : Within (Runs terms) action :=
  .step fun d => .act (.refl d) operation (allowed _)

include carries confirms works stores

/-- **A flush is a run**, if what the network does meanwhile is. -/
theorem goes_flush (destinations : List Destination) :
    Goes terms (flush carrier destinations) :=
  .of_within (within_flush (fun destination push => .step (carries destination push))
    (fun _ _ _ _ => within_operation (.confirm _ _ _ _) fun time => confirms time _)
    (fun destination => within_operation (.pendingPushes destination) works)
    (within_operation .persistAll stores) destinations)

/-- **Letting time pass while the loop runs** is a run. -/
theorem goes_pass (looks : ∀ time, terms.deed time .look) (time stop : Nat) :
    Goes terms (pass carrier time stop) :=
  .of_within (within_pass (fun destination push => .step (carries destination push))
    (fun _ _ _ _ => within_operation (.confirm _ _ _ _) fun time => confirms time _)
    (fun destination => within_operation (.pendingPushes destination) works)
    (within_operation .persistAll stores)
    (fun {d schedule} _ =>
      .act (.refl d) (.modifySchedule fun _ => schedule) (looks _)) time stop)

end Flush

end OnlineM

end ConfigReplica
