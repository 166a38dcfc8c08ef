import ConfigReplica.Cli.Console
import ConfigReplica.Proofs.Routing.HopRows
import ConfigReplica.Proofs.Routing.NodeSets
import ConfigReplica.Proofs.Session.Operations

/-!
# What commands leave alone

A command works in a session, on the pool of nodes and on the paths. The account and the removal
marks of the session have a table to themselves, and **no command writes to it**
(`ConsoleM.spares_run`), whatever the store refuses on the way. Reading, editing and storing objects
writes to the table of objects alone (`Device.Effect.row?_of_work`), importing nodes to those of
nodes and paths.

An action that leaves the table alone is said to spare it (`ConsoleM.Spares`). The rules follow the
way commands are put together.
-/

namespace ConfigReplica

namespace Device

variable {d d' d'' : Device}

/-- **Work on objects** writes to no other table. -/
theorem Effect.row?_of_work (effect : Effect .work d d') {cell : Cell}
    (other : cell.table ≠ .configs) : d'.store.row? cell = d.store.row? cell := by
  cases effect with
  | aside same =>
    unfold Store.row?
    rw [same.rows]
  | remarked change => cases change
  | markSaved change => cases change
  | @stored _ _ _ _ _ o stores object placed time live present =>
    have differs : cell ≠ o.scope.cell o.variant := by
      rintro rfl
      exact other rfl
    exact (row?_setRow _ _ _ _).trans (if_neg differs)
  | rowDeleted variant mine => rcases mine with mine | ⟨_, mine, -⟩ <;> cases mine
  | _ => rfl

/-- The session is tidy, and the rows of the account data are as they were. -/
structure Spared (d d' : Device) : Prop where
  tidy : d'.Tidy
  rows : ∀ key, d'.store.row? ⟨.accountData, key⟩ = d.store.row? ⟨.accountData, key⟩

namespace Spared

theorem refl (tidy : d.Tidy) : Spared d d :=
  ⟨tidy, fun _ => rfl⟩

theorem trans (first : Spared d d') (second : Spared d' d'') : Spared d d'' :=
  ⟨second.tidy, fun key => (second.rows key).trans (first.rows key)⟩

theorem ofChain (chain : Chain .work d d') (tidy : d.Tidy) : Spared d d' where
  tidy := chain.tidy tidy
  rows key := by
    have same {e e' : Device} (effect : Effect .work e e') :
        e'.store.row? ⟨.accountData, key⟩ = e.store.row? ⟨.accountData, key⟩ :=
      effect.row?_of_work nofun
    exact chain.keeps (fun effect before => (same effect).trans before) rfl

end Spared

end Device

namespace Cli.ConsoleM

open Config Device

variable {α β : Type}

/-- The console that an action leaves behind, whether it fails or not. -/
def consoleAfter (action : ConsoleM α) (c : Console) : Console :=
  match action c with
  | .ok _ c' => c'
  | .error _ c' => c'

/-- The action leaves the account data alone. -/
def Spares (action : ConsoleM α) : Prop :=
  ∀ c : Console, c.device.Tidy → c.device.Spared (consoleAfter action c).device

namespace Spares

/-- An action that leaves the device as it is. -/
theorem ofDevice {action : ConsoleM α} (same : ∀ c, (consoleAfter action c).device = c.device) :
    Spares action := by
  intro c tidy
  rw [same]
  exact .refl tidy

theorem pure (x : α) : Spares (Pure.pure x) :=
  ofDevice fun _ => rfl

theorem throw (fault : Fault) : Spares (MonadExcept.throw fault : ConsoleM α) :=
  ofDevice fun _ => rfl

theorem bind {first : ConsoleM α} {next : α → ConsoleM β} (spares : Spares first)
    (goesOn : ∀ x, Spares (next x)) : Spares (first >>= next) := by
  intro c tidy
  have begins := spares c tidy
  unfold consoleAfter at begins ⊢
  cases ran : first c with
  | error fault c' =>
    rw [ran] at begins
    rw [bind_of_error ran]
    exact begins
  | ok x c' =>
    -- the second action starts where the first one ended, in a session that is still tidy
    rw [ran] at begins
    rw [bind_of_ok ran]
    exact begins.trans (goesOn x c' begins.tidy)

theorem attempt {action : ConsoleM α} (spares : Spares action) : Spares (attempt action) := by
  intro c tidy
  have begins := spares c tidy
  unfold consoleAfter at begins
  unfold consoleAfter ConsoleM.attempt
  cases ran : action c <;> rw [ran] at begins <;> exact begins

theorem forM {γ : Type} {f : γ → ConsoleM PUnit} (items : List γ) (spares : ∀ x, Spares (f x)) :
    Spares (items.forM f) := by
  induction items with
  | nil => exact pure _
  | cons x items ih => exact (spares x).bind fun _ => ih

theorem say (line : String) : Spares (say line) :=
  ofDevice fun _ => rfl

theorem sayAll (lines : List String) : Spares (sayAll lines) :=
  forM lines say

/-- What all lists are shown by: a line where there is nothing, and a headed list otherwise. -/
theorem listing {nothing : Prop} [Decidable nothing] (line header : String) (lines : List String) :
    Spares (if nothing then ConsoleM.say line
      else ConsoleM.say header >>= fun _ => ConsoleM.sayAll lines) := by
  split
  · exact say line
  · exact (say header).bind fun _ => sayAll lines

/-- Work in the session spares the account. -/
theorem onSession {action : SessionM α} {Q : α → Device → Prop}
    (does : Does .work (fun _ => True) action Q) : Spares (onSession action) := by
  intro c tidy
  have spared := Spared.ofChain (does.chain tidy trivial) tidy
  unfold stateAfter at spared
  unfold consoleAfter ConsoleM.onSession
  cases ran : action c.device <;> rw [ran] at spared <;> exact spared

/-- So does what is done with rows of other tables. -/
theorem onStore {action : StoreM α}
    (rows : ∀ s key, (stateAfter action s).row? ⟨.accountData, key⟩ = s.row? ⟨.accountData, key⟩) :
    Spares (onStore action) := by
  intro c tidy
  have same := rows c.device.store
  unfold stateAfter at same
  unfold consoleAfter ConsoleM.onStore ConsoleM.onSession SessionM.onStore
  cases ran : action c.device.store <;> rw [ran] at same <;> exact ⟨tidy, same⟩

theorem onPaths {action : Routing.PathM α} (stays : Routing.PathM.Stays action) :
    Spares (onPaths action) := by
  refine onStore fun s key => ?_
  have same := stays.rows { store := s } ⟨.accountData, key⟩ nofun
  unfold stateAfter at same ⊢
  dsimp only
  cases ran : action { store := s } <;> rw [ran] at same <;> exact same

end Spares

/-! ### The commands -/

/-- Looking at an object of the account. -/
theorem spares_read (variant : Variant) (f : Object → Except Error α) :
    Spares (onSession do SessionM.ofExcept (f (← SessionM.read variant .account))) :=
  .onSession ((SessionM.does_read (by trivial) variant .account).bind fun o =>
    (Does.ofExcept (f o)).done)

/-- Editing an object of the account. -/
theorem spares_edit (variant : Variant) {step : EditM α} (plan : EditM.Plan step) :
    Spares (edit variant step) :=
  .onSession ((SessionM.does_edit variant .account plan).bind fun outcome =>
    (Does.ofExcept outcome).done)

/-- Adding a contact is an edit that looks for the contact first. -/
def addContactPlan (now : Int64) (id : Identity) (name : Option String) :
    EditM.Plan (addContactEdit now id name) :=
  .bind (.record? Contact id.hex) fun _ => .setRecord _

theorem spares_addContact (text : String) (name : Option String) :
    Spares (addContact text name) := by
  unfold addContact
  cases Identity.read text with
  | error error => exact .throw _
  | ok id =>
    have adds : Spares (do
        let now ← onSession SessionM.now
        discard (edit .contacts (addContactEdit now id name))
        say ("Added contact: " ++ id.hex)) :=
      (Spares.onSession SessionM.does_now).bind fun now =>
        ((spares_edit .contacts (addContactPlan now id name)).bind fun _ => .pure _).bind fun _ =>
          .say _
    dsimp only
    split
    · exact .throw _
    · exact adds

theorem spares_showProfile : Spares showProfile := by
  refine (spares_read .userProfile Profile.read).bind fun profile => (Spares.say _).bind fun _ =>
    (Spares.say _).bind fun _ => Spares.bind ?_ fun _ => .say _
  cases profile.picture with
  | none => exact .pure _
  | some picture => exact .say _

theorem spares_listContacts : Spares listContacts :=
  (spares_read .contacts fun o => o.records Contact).bind fun _ => .listing _ _ _

theorem spares_showStatus : Spares showStatus := by
  have reads : Does .work (fun _ => True)
      (do (← SessionM.accountObjects).mapM SessionM.object) fun _ _ => True :=
    (SessionM.does_accountObjects (by trivial)).bind fun handles =>
      .mapM handles fun handle _ => (SessionM.does_object handle).done
  exact (Spares.say _).bind fun _ => (Spares.onSession reads).bind fun _ => .sayAll _

theorem spares_showPaths : Spares showPaths :=
  (Spares.onPaths Routing.PathM.stays_paths).bind fun _ => .listing _ _ _

theorem spares_pool : Spares (onStore Routing.Pool.get) :=
  .onStore fun s key => congrFun (Routing.Pool.row?_stateAfter_get s) ⟨.accountData, key⟩

theorem spares_importPool (around : Surroundings) (name : String) :
    Spares (importPool around name) := by
  unfold importPool
  cases readNodeFile around name with
  | error fault => exact .throw _
  | ok nodes =>
    have puts : Spares (onStore (Routing.Pool.set nodes)) :=
      .onStore fun s key => StoreM.row?_put_of_ne _ _ s _ nofun
    refine puts.bind fun _ => spares_pool.bind fun pool => (Spares.say _).bind fun _ => ?_
    refine (Spares.onPaths (Routing.PathM.stays_rebuild _ pool)).attempt.bind fun built => ?_
    -- paths were built, or there were too few nodes for them, or building failed otherwise
    split
    · exact spares_showPaths
    · exact .say _
    · exact .throw _

theorem spares_showSwarm (destination : String) : Spares (showSwarm destination) := by
  have reads : Spares (onStore (Routing.Swarm.get? destination)) :=
    .onStore fun s key =>
      congrFun (Routing.Swarm.row?_stateAfter_get? destination s) ⟨.accountData, key⟩
  refine reads.bind fun found => ?_
  cases found with
  | none => exact .say _
  | some nodes => exact (Spares.say _).bind fun _ => .sayAll _

/-- **No command writes to the account data.** -/
theorem spares_run (around : Surroundings) (dataDir : String) (command : Command) :
    Spares (run around dataDir command) := by
  cases command with
  | info =>
    have reads : Does .work (fun _ => True) (do pure (← SessionM.session).ring) fun _ _ => True :=
      SessionM.does_session.bind fun _ => .pure _ fun _ => trivial
    exact (Spares.onSession reads).bind fun _ => .sayAll _
  | showProfile => exact spares_showProfile
  | setName name =>
    exact (spares_edit .userProfile (.setField .text _ _ name)).bind fun _ => .say _
  | listContacts => exact spares_listContacts
  | addContact text name => exact spares_addContact text name
  | status => exact spares_showStatus
  | showPaths => exact spares_showPaths
  | clearPaths => exact (Spares.onPaths Routing.PathM.stays_clear).bind fun _ => .say _
  | importPool file => exact spares_importPool around file
  | showPool => exact spares_pool.bind fun _ => .listing _ _ _
  | showSwarm destination => exact spares_showSwarm destination

end Cli.ConsoleM

end ConfigReplica
