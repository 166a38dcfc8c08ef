import ConfigReplica.Proofs.Account.Opening
import ConfigReplica.Proofs.Cli.Commands
import ConfigReplica.Proofs.Session.Runs

/-!
# Launches on a data directory

The program is launched again and again on one directory. A launch opens the account, or makes
it, and runs its command; its store may refuse any step (`Launch`). What one launch left is what the
next one finds (`leftBy`).

A launch may also end at any point of its own. It is then the launch whose store refuses every step
after that point (`Launch.cutOff`): what it leaves is what its store held there.

The main statement is that the account of a directory is stable (`account_is_stable`). The step
behind it has two cases. Where there is an account, a launch opens it or fails, and leaves it as it
is (`Launch.keeps`). Where there is no identity, a launch makes an account if its store grants the
four steps of that (`Launch.creates`), and otherwise there is still no identity
(`Launch.missing_of_denied`).
-/

namespace ConfigReplica.Cli

open Account

/-- One launch of the program. -/
structure Launch where
  around : Surroundings
  dataDir : String
  command : Command
  /-- The steps that the store refuses. -/
  fault : List Access → Access → Option String

namespace Launch

variable (l : Launch) (rows : Std.ExtTreeMap Cell Bytes)

/-- The store that the launch finds. -/
def store : Store :=
  { rows, fault := l.fault }

/-- The vault that the launch opens. -/
def vault : Vault :=
  { store := l.store rows, entropy := l.around.entropy }

/-- The account that the launch works with, or why it has none. -/
def opened : Except Account.Fault Seal.Keyring :=
  match openOrCreate (l.vault rows) with
  | .ok ring _ => .ok ring
  | .error fault _ => .error fault

/-- The rows that the launch leaves behind, whether it fails or not. -/
def rowsAfter : Std.ExtTreeMap Cell Bytes :=
  (execute l.around l.dataDir l.command (l.store rows)).store.rows

/-- The launch that goes as this one for a number of steps, and is cut off there. -/
def cutOff (count : Nat) : Launch :=
  { l with fault := fun past step =>
      if past.length < count then l.fault past step else some "cut off" }

end Launch

/-- The rows that launches leave behind, one after the other. -/
def leftBy (launches : List Launch) (rows : Std.ExtTreeMap Cell Bytes) :
    Std.ExtTreeMap Cell Bytes :=
  launches.foldl (fun rows l => l.rowsAfter rows) rows

section Launches

variable {l : Launch} {rows : Std.ExtTreeMap Cell Bytes} {ring : Seal.Keyring}

/-! ### One launch -/

namespace Launch

/-- A launch that has its account leaves the account data as the opening left it. -/
theorem rowsAfter_of_opened {v : Vault} (ran : openOrCreate (l.vault rows) = .ok ring v)
    (key : String) :
    let cell : Cell := ⟨.accountData, key⟩
    (l.rowsAfter rows)[cell]? = v.store.rows[cell]? := by
  let device : Device :=
    { session := { ring }, store := v.store, entropy := v.entropy, clock := l.around.clock }
  let command := ConsoleM.run l.around l.dataDir l.command
  have left : (execute l.around l.dataDir l.command (l.store rows)).store =
      (ConsoleM.consoleAfter command { device }).device.store := by
    unfold vault at ran
    rw [execute, ran, ConsoleM.consoleAfter]
    dsimp only [command, device]
    cases ConsoleM.run l.around l.dataDir l.command _ <;> rfl
  -- the session is new, so it is tidy
  have tidy : device.Tidy := Device.tidy_opened device ring {}
  have spared := (ConsoleM.spares_run l.around l.dataDir l.command { device } tidy).rows key
  rw [← left] at spared
  exact spared

theorem rowsAfter_of_failed {fault : Account.Fault} {v : Vault}
    (failed : openOrCreate (l.vault rows) = .error fault v) : l.rowsAfter rows = v.store.rows := by
  unfold vault at failed
  rw [rowsAfter, execute, failed]

/-- The account that was opened is there after the launch. -/
theorem holds_of_opened {v : Vault} (ran : openOrCreate (l.vault rows) = .ok ring v)
    (holds : Holds v.store.rows ring) : Holds (l.rowsAfter rows) ring :=
  holds.congr (rowsAfter_of_opened ran idKey) (rowsAfter_of_opened ran secretKey)

/-- **A launch leaves an account as it is.** -/
theorem keeps (holds : Holds rows ring) (l : Launch) : Holds (l.rowsAfter rows) ring := by
  by_cases answers : Answers (l.store rows)
  · exact holds_of_opened (openOrCreate_of_holds (v := l.vault rows) holds answers) holds
  · -- the launch ends before it has an account, and so before it does anything
    obtain ⟨fault, v, failed, same⟩ := openOrCreate_of_refused (v := l.vault rows) answers
    rw [rowsAfter_of_failed failed, same]
    exact holds

/-- It opens the account where the store gives its rows. -/
theorem opened_of_holds (holds : Holds rows ring) (answers : Answers (l.store rows)) :
    l.opened rows = .ok ring := by
  rw [opened, openOrCreate_of_holds (v := l.vault rows) holds answers]

/-- It opens no other account. -/
theorem eq_of_opened {other : Seal.Keyring} (holds : Holds rows ring)
    (opened : l.opened rows = .ok other) : other = ring := by
  by_cases answers : Answers (l.store rows)
  · rw [opened_of_holds holds answers] at opened
    exact (Except.ok.inj opened).symm
  · obtain ⟨fault, v, failed, -⟩ := openOrCreate_of_refused (v := l.vault rows) answers
    rw [Launch.opened, failed] at opened
    cases opened

/-- **A launch makes an account** where there is no identity and the store grants the steps. -/
theorem creates (missing : rows[idCell]? = none) (grants : Grants (l.store rows)) :
    l.opened rows = .ok (drawn l.around.entropy) ∧
      Holds (l.rowsAfter rows) (drawn l.around.entropy) := by
  obtain ⟨v, ran, holds⟩ := openOrCreate_of_grants (v := l.vault rows) missing grants
  refine ⟨?_, holds_of_opened ran holds⟩
  rw [opened, ran]
  rfl

theorem missing_of_denied (missing : rows[idCell]? = none) (denied : ¬ Grants (l.store rows)) :
    (l.rowsAfter rows)[idCell]? = none := by
  obtain ⟨fault, v, failed, still⟩ := openOrCreate_of_denied (v := l.vault rows) missing denied
  rw [rowsAfter_of_failed failed]
  exact still

/-- What is granted before a launch is cut off is granted if it goes on. -/
theorem granted_of_cutOff {count : Nat} {past : List Access} {step : Access}
    (granted : (l.cutOff count).fault past step = none) : l.fault past step = none := by
  unfold cutOff at granted
  dsimp only at granted
  split at granted
  · exact granted
  · cases granted

theorem grants_of_cutOff {count : Nat} (grants : Grants ((l.cutOff count).store rows)) :
    Grants (l.store rows) where
  readId := granted_of_cutOff grants.readId
  readSecret := granted_of_cutOff grants.readSecret
  writeSecret := granted_of_cutOff grants.writeSecret
  writeId := granted_of_cutOff grants.writeId

end Launch

/-! ### Any number of launches -/

/-- There is no identity, or it is that of an account. -/
def Whole (rows : Std.ExtTreeMap Cell Bytes) : Prop :=
  rows[idCell]? = none ∨ ∃ ring, Holds rows ring

theorem Whole.launch (whole : Whole rows) (l : Launch) : Whole (l.rowsAfter rows) := by
  rcases whole with missing | ⟨ring, holds⟩
  · by_cases grants : Grants (l.store rows)
    · exact .inr ⟨_, (Launch.creates missing grants).2⟩
    · exact .inl (Launch.missing_of_denied missing grants)
  · exact .inr ⟨ring, Launch.keeps holds l⟩

theorem Whole.leftBy (whole : Whole rows) (launches : List Launch) :
    Whole (leftBy launches rows) := by
  induction launches generalizing rows with
  | nil => exact whole
  | cons l launches ih => exact ih (whole.launch l)

/-- What one launch keeps, all launches keep. -/
theorem holds_leftBy (holds : Holds rows ring) (launches : List Launch) :
    Holds (leftBy launches rows) ring := by
  induction launches generalizing rows with
  | nil => exact holds
  | cons l launches ih => exact ih (Launch.keeps holds l)

/-- **An account that is there at some point of a launch** is there at its end. -/
theorem Whole.holds_of_cutOff (whole : Whole rows) {count : Nat}
    (holds : Holds ((l.cutOff count).rowsAfter rows) ring) : Holds (l.rowsAfter rows) ring := by
  rcases whole with missing | ⟨old, before⟩
  · -- the account was made before that point, so the launch makes the same one if it goes on
    by_cases grants : Grants ((l.cutOff count).store rows)
    · obtain rfl := holds.unique (Launch.creates missing grants).2
      exact (Launch.creates missing (Launch.grants_of_cutOff grants)).2
    · have still := Launch.missing_of_denied missing grants
      rw [holds.id] at still
      cases still
  · obtain rfl := holds.unique (Launch.keeps before (l.cutOff count))
    exact Launch.keeps before l

/-- **The account of a directory is stable.** Take any launches on a directory that has no identity
yet, whatever their stores refuse and wherever they are cut off.

* Where an identity is there, it is that of an account, and so the secret is there as well.
* Once there is an account, both of its rows stay as they are through all later launches. Each of
  them opens this account if its store gives it the rows, and never another one. The same goes from
  any point of the launch that makes the account.
* Where there is no identity, the next launch makes an account that is complete, if its store grants
  what that takes, and works with it. -/
theorem account_is_stable (fresh : rows[idCell]? = none) (past : List Launch) :
    ((leftBy past rows)[idCell]?.isSome → ∃ ring, Holds (leftBy past rows) ring) ∧
    (∀ ring, Holds (leftBy past rows) ring → ∀ later,
      Holds (leftBy (past ++ later) rows) ring ∧ ∀ next : Launch,
        (Answers (next.store (leftBy (past ++ later) rows)) →
          next.opened (leftBy (past ++ later) rows) = .ok ring) ∧
        ∀ other, next.opened (leftBy (past ++ later) rows) = .ok other → other = ring) ∧
    (∀ (l : Launch) (count : Nat) (ring : Seal.Keyring),
      Holds (leftBy (past ++ [l.cutOff count]) rows) ring →
        Holds (leftBy (past ++ [l]) rows) ring) ∧
    ((leftBy past rows)[idCell]? = none → ∀ next : Launch, Grants (next.store (leftBy past rows)) →
      ∃ ring, next.opened (leftBy past rows) = .ok ring ∧
        Holds (leftBy (past ++ [next]) rows) ring) := by
  have whole : Whole (leftBy past rows) := Whole.leftBy (.inl fresh) past
  have goesOn (later : List Launch) :
      leftBy (past ++ later) rows = leftBy later (leftBy past rows) := List.foldl_append
  refine ⟨fun present => ?_, fun ring holds later => ?_, fun l count ring holds => ?_,
    fun missing next grants => ?_⟩
  · -- the directory is whole after any launches, so an identity is that of an account
    refine whole.resolve_left fun missing => ?_
    rw [missing] at present
    cases present
  · rw [goesOn]
    have after := holds_leftBy holds later
    exact ⟨after, fun next => ⟨Launch.opened_of_holds after, fun _ => Launch.eq_of_opened after⟩⟩
  · rw [goesOn] at holds ⊢
    -- the launch is the same one up to the point where it is cut off
    exact whole.holds_of_cutOff holds
  · rw [goesOn]
    exact ⟨_, Launch.creates missing grants⟩

end Launches

/-- A launch that shows the account, with random draws of zero. Its store refuses these steps. -/
def showing (refused : List Access) : Launch where
  around :=
    { clock := 0, entropy := .constant 0, shuffle := .byPlaces []
      file := fun name => .error name }
  dataDir := "data"
  command := .info
  fault _ step := if step ∈ refused then some "disk full" else none

/-- The first launch cannot write the identity, and leaves a secret alone. The second one makes the
account that all later ones find. -/
theorem account_is_stable_retried :
    (∅ : Std.ExtTreeMap Cell Bytes)[idCell]? = none ∧
    (leftBy [showing [.write idCell]] ∅)[idCell]? = none ∧
    (leftBy [showing [.write idCell]] ∅)[secretCell]?.isSome ∧
    ∃ ring, (showing []).opened (leftBy [showing [.write idCell]] ∅) = .ok ring ∧
      ∀ later, let left := leftBy ([showing [.write idCell], showing []] ++ later) ∅
        Holds left ring ∧ (showing []).opened left = .ok ring := by
  have fresh : (∅ : Std.ExtTreeMap Cell Bytes)[idCell]? = none := rfl
  have missing : (leftBy [showing [.write idCell]] ∅)[idCell]? = none := by decide +kernel
  have grants (rows : Std.ExtTreeMap Cell Bytes) : Grants ((showing []).store rows) :=
    { readId := rfl, readSecret := rfl, writeSecret := rfl, writeId := rfl }
  obtain ⟨-, -, -, makes⟩ := account_is_stable fresh [showing [.write idCell]]
  obtain ⟨ring, opened, holds⟩ := makes missing (showing []) (grants _)
  obtain ⟨-, stays, -⟩ := account_is_stable fresh [showing [.write idCell], showing []]
  refine ⟨fresh, missing, by decide +kernel, ring, opened, fun later => ?_⟩
  obtain ⟨still, opens⟩ := stays ring holds later
  exact ⟨still, (opens (showing [])).1 (grants _).toAnswers⟩

end ConfigReplica.Cli
