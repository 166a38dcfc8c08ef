import ConfigReplica.Account
import ConfigReplica.Proofs.IdentityText
import ConfigReplica.Proofs.Store.Steps

/-!
# Opening an account

An account is two rows of a store, one with its identity and one with its secret (`Account.Holds`).
They determine it: it is read back from them (`Account.read_rows`).

Opening takes two steps on the store where both rows are there, and four where there is no identity.
Where the rows are there it changes nothing (`openOrCreate_of_holds`). Where there is no identity it
makes a new account if the store grants all four steps, and fails otherwise. The identity is written
last, so that it is still missing after any failure (`openOrCreate_of_missing`).
-/

namespace ConfigReplica

/-- **Identities are read as they are shown.** -/
theorem Identity.read_hex (id : Identity) : Identity.read id.hex = .ok id := by
  rw [Identity.read, Identity.parse_hex]
  rfl

namespace Account

/-! ### The rows of an account -/

/-- The place of the identity. -/
def idCell : Cell := ⟨.accountData, idKey⟩

/-- The place of the secret. -/
def secretCell : Cell := ⟨.accountData, secretKey⟩

/-- **The account of a store**: both of its rows are there. -/
structure Holds (rows : Std.ExtTreeMap Cell Bytes) (ring : Seal.Keyring) : Prop where
  id : rows[idCell]? = some (Bytes.utf8 ring.user.hex)
  secret : rows[secretCell]? = some ring.secret.toList

/-- An account is read from its rows. -/
theorem read_rows (ring : Seal.Keyring) :
    read (Bytes.utf8 ring.user.hex) ring.secret.toList = .ok ring := by
  unfold read
  rw [Bytes.ofUtf8?_utf8]
  dsimp only
  rw [dif_pos Vector.length_toList, Identity.read_hex]
  rfl

variable {rows rows' : Std.ExtTreeMap Cell Bytes} {ring ring' : Seal.Keyring}

/-- A store has one account. -/
theorem Holds.unique (holds : Holds rows ring) (holds' : Holds rows ring') : ring = ring' := by
  have ids := Option.some.inj (holds.id.symm.trans holds'.id)
  have secrets := Option.some.inj (holds.secret.symm.trans holds'.secret)
  have read := read_rows ring
  rw [ids, secrets, read_rows] at read
  exact (Except.ok.inj read).symm

/-- Only the two rows matter. -/
theorem Holds.congr (holds : Holds rows ring) (id : rows'[idCell]? = rows[idCell]?)
    (secret : rows'[secretCell]? = rows[secretCell]?) : Holds rows' ring :=
  ⟨id.trans holds.id, secret.trans holds.secret⟩

/-! ### Opening step by step -/

/-- The store gives both rows. -/
structure Answers (s : Store) : Prop where
  readId : s.fault s.past (.read idCell) = none
  readSecret : s.fault (.read idCell :: s.past) (.read secretCell) = none

/-- The store also takes both rows, the secret first. -/
structure Grants (s : Store) : Prop extends Answers s where
  writeSecret : s.fault (.read secretCell :: .read idCell :: s.past) (.write secretCell) = none
  writeId : s.fault (.write secretCell :: .read secretCell :: .read idCell :: s.past)
    (.write idCell) = none

/-- The account that is made of random values. -/
def drawn (entropy : Entropy) : Seal.Keyring :=
  { user := entropy.account.1, secret := entropy.account.2.secret.1 }

section Opening

variable {v : Vault} {α : Type} {action : StoreM α} {s : Store}

theorem onStore_of_ok {x : α} (ran : action v.store = .ok x s) :
    onStore action v = .ok x { v with store := s } := by
  rw [onStore, ran]

theorem onStore_of_error {error : Error} (ran : action v.store = .error error s) :
    onStore action v = .error (.store error) { v with store := s } := by
  rw [onStore, ran]

/-- The vault after both rows were read. -/
def Vault.looked (v : Vault) : Vault :=
  { v with store := (v.store.noted (.read idCell)).noted (.read secretCell) }

/-- A store that gives both rows gives what they hold. -/
theorem Answers.reads (answers : Answers v.store) :
    onStore (StoreM.get? .accountData idKey) v =
      .ok v.store.rows[idCell]? { v with store := v.store.noted (.read idCell) } ∧
    onStore (StoreM.get? .accountData secretKey) { v with store := v.store.noted (.read idCell) } =
      .ok v.store.rows[secretCell]? v.looked :=
  ⟨onStore_of_ok (StoreM.get?_of_granted answers.readId),
    onStore_of_ok (StoreM.get?_of_granted answers.readSecret)⟩

/-- Nothing is changed where a row cannot be read. -/
theorem openOrCreate_of_refused (refused : ¬ Answers v.store) :
    ∃ fault v', openOrCreate v = .error fault v' ∧ v'.store.rows = v.store.rows := by
  cases first : v.store.fault v.store.past (.read idCell) with
  | some text =>
    have failed := onStore_of_error (v := v) (StoreM.get?_of_refused first)
    exact ⟨_, _, bind_of_error failed, rfl⟩
  | none =>
    have got := onStore_of_ok (v := v) (StoreM.get?_of_granted first)
    cases second : v.store.fault (.read idCell :: v.store.past) (.read secretCell) with
    | none => exact absurd ⟨first, second⟩ refused
    | some text =>
      have failed := onStore_of_error (v := { v with store := v.store.noted (.read idCell) })
        (StoreM.get?_of_refused second)
      exact ⟨_, _, (bind_of_ok got).trans (bind_of_error failed), rfl⟩

/-- **An account that is there is opened**, unless the store does not give its rows. Either way
nothing is changed. -/
theorem openOrCreate_of_holds (holds : Holds v.store.rows ring) (answers : Answers v.store) :
    openOrCreate v = .ok ring v.looked := by
  obtain ⟨first, second⟩ := answers.reads
  rw [holds.id] at first
  rw [holds.secret] at second
  rw [openOrCreate, bind_of_ok first, bind_of_ok second]
  dsimp only
  rw [read_rows]
  rfl

/-- Where there is no identity, a new account is drawn and written. -/
theorem openOrCreate_of_missing (missing : v.store.rows[idCell]? = none)
    (answers : Answers v.store) :
    openOrCreate v =
      match write (drawn v.entropy) v.looked.store with
      | .ok () store => .ok (drawn v.entropy) { store, entropy := v.entropy.account.2.secret.2 }
      | .error error store =>
        .error (.store error) { store, entropy := v.entropy.account.2.secret.2 } := by
  obtain ⟨first, second⟩ := answers.reads
  rw [missing] at first
  let drew : Vault := { store := v.looked.store, entropy := v.entropy.account.2.secret.2 }
  have draws : draw v.looked = .ok (drawn v.entropy) drew := rfl
  rw [openOrCreate, bind_of_ok first, bind_of_ok second]
  refine (bind_of_ok draws).trans ?_
  cases wrote : write (drawn v.entropy) v.looked.store with
  | ok done s => exact bind_of_ok (onStore_of_ok (v := drew) wrote)
  | error error s => exact bind_of_error (onStore_of_error (v := drew) wrote)

/-- The store with the secret of an account. -/
def secretKept (s : Store) (ring : Seal.Keyring) : Store :=
  (s.noted (.write secretCell)).insert secretCell ring.secret.toList

theorem write_of_granted (ring : Seal.Keyring)
    (writeSecret : s.fault s.past (.write secretCell) = none)
    (writeId : s.fault (.write secretCell :: s.past) (.write idCell) = none) :
    write ring s = .ok () (((secretKept s ring).noted (.write idCell)).insert idCell
      (Bytes.utf8 ring.user.hex)) := by
  have kept := StoreM.put_of_granted ring.secret.toList writeSecret
  have wrote := StoreM.put_of_granted (s := secretKept s ring)
    (Bytes.utf8 ring.user.hex) writeId
  exact (bind_of_ok kept).trans wrote

/-- A write that fails has not reached the identity. -/
theorem write_of_refused (ring : Seal.Keyring)
    (refused : ¬ (s.fault s.past (.write secretCell) = none ∧
      s.fault (.write secretCell :: s.past) (.write idCell) = none)) :
    ∃ error s', write ring s = .error error s' ∧ s'.rows[idCell]? = s.rows[idCell]? := by
  cases first : s.fault s.past (.write secretCell) with
  | some text => exact ⟨_, _, bind_of_error (StoreM.put_of_refused _ first), rfl⟩
  | none =>
    have kept := StoreM.put_of_granted ring.secret.toList first
    cases second : s.fault (.write secretCell :: s.past) (.write idCell) with
    | none => exact absurd ⟨first, second⟩ refused
    | some text =>
      have failed := StoreM.put_of_refused (s := secretKept s ring)
        (Bytes.utf8 ring.user.hex) second
      refine ⟨_, _, (bind_of_ok kept).trans failed, ?_⟩
      have other := Store.row?_insert (s.noted (.write secretCell)) secretCell idCell
        ring.secret.toList
      rwa [if_neg (by decide)] at other

/-- **A new account** is made if the store grants all steps. -/
theorem openOrCreate_of_grants (missing : v.store.rows[idCell]? = none)
    (grants : Grants v.store) :
    ∃ v', openOrCreate v = .ok (drawn v.entropy) v' ∧ Holds v'.store.rows (drawn v.entropy) := by
  have wrote := write_of_granted (s := v.looked.store) (drawn v.entropy)
    grants.writeSecret grants.writeId
  have ran := openOrCreate_of_missing missing grants.toAnswers
  rw [wrote] at ran
  refine ⟨_, ran, ?_, ?_⟩
  · exact (Store.row?_insert _ idCell idCell _).trans (if_pos rfl)
  · -- writing the identity leaves the secret in place
    refine (Store.row?_insert _ idCell secretCell _).trans ((if_neg (by decide)).trans ?_)
    exact (Store.row?_insert _ secretCell secretCell _).trans (if_pos rfl)

/-- **Otherwise there is still no identity.** -/
theorem openOrCreate_of_denied (missing : v.store.rows[idCell]? = none)
    (denied : ¬ Grants v.store) :
    ∃ fault v', openOrCreate v = .error fault v' ∧ v'.store.rows[idCell]? = none := by
  by_cases answers : Answers v.store
  · -- the rows were given, so one of them was not taken
    have refused : ¬ (v.looked.store.fault v.looked.store.past (.write secretCell) = none ∧
        v.looked.store.fault (.write secretCell :: v.looked.store.past) (.write idCell) = none) :=
      fun both => denied ⟨answers, both.1, both.2⟩
    obtain ⟨error, s, failed, same⟩ := write_of_refused (drawn v.entropy) refused
    have ran := openOrCreate_of_missing missing answers
    rw [failed] at ran
    exact ⟨_, _, ran, same.trans missing⟩
  · obtain ⟨fault, v', failed, same⟩ := openOrCreate_of_refused answers
    exact ⟨fault, v', failed, same ▸ missing⟩

end Opening

end Account

end ConfigReplica
